import Chip8.Proofs.Dispatch
import Chip8.Proofs.Outcomes
import Chip8.Proofs.SpriteAlgebra

/-!
# Drawing a sprite again

`DXYN` reads its place from two registers and then overwrites the flag
register.  If the place does not come from the flag register, the second of two
equal instructions draws the same sprite at the same place, so it undoes what
the first one has drawn.  Its flag then tells whether the first one lit a cell.
-/

namespace Chip8

namespace Machine

/-! ## One drawing -/

/-- The bytes of the sprite that a word asks for lie in memory. -/
def HoldsSprite (machine : Machine) (word : Word) : Prop :=
  word.n.val = 0 ∨ 0 ≤ machine.index ∧ machine.index + word.n.val ≤ 4096

/-- The sprite at the index, placed as the two registers of the word say, marks
the cell. -/
def SpriteMarks (machine : Machine) (word : Word) (cell : Cell) : Prop :=
  ∃ row column : Nat, row < word.n.val ∧ column < 8 ∧
    (machine.memory.read (machine.index + row).toNat).toNat.testBit
      (7 - column) = true ∧
    (machine.register word.x).toNat % 64 + column < 64 ∧
    cell =
      ⟨(machine.register word.x).toNat % 64 + column,
        (machine.register word.y).toNat % 32 + row⟩

/-- The bytes at the index are the sprite that the word describes. -/
theorem marks_slice_iff
    {machine : Machine} {word : Word} (holds : machine.HoldsSprite word)
    {cell : Cell} :
    Sprite.Marks ((machine.register word.x).toNat % screenWidth : Nat)
        ((machine.register word.y).toNat % screenHeight : Nat)
        (machine.memory.slice machine.index.toNat word.n) cell ↔
      machine.SpriteMarks word cell := by
  have sameByte : ∀ row < word.n.val,
      (machine.memory.slice machine.index.toNat word.n).getD row 0 =
        machine.memory.read (machine.index + row).toNat := by
    intro row below
    have place : (machine.index + row).toNat = machine.index.toNat + row := by
      unfold HoldsSprite at holds
      omega
    rw [Bytes.getD_slice _ _ below, place]
  unfold screenWidth screenHeight
  constructor
  · intro marked
    obtain ⟨row, column, below, bound, isSet, visible, isCell⟩ := marked
    rw [Bytes.length_slice] at below
    rw [sameByte row below] at isSet
    exact ⟨row, column, below, bound, isSet, by omega, isCell⟩
  · intro marked
    obtain ⟨row, column, below, bound, isSet, visible, isCell⟩ := marked
    rw [← sameByte row below] at isSet
    refine ⟨row, column, ?_, bound, isSet, by omega, isCell⟩
    rwa [Bytes.length_slice]

theorem executeWord_of_drawing
    {machine : Machine} {word : Word} (isDrawing : word.group = 0xD)
    (holds : machine.HoldsSprite word) (keys : Option KeySet) :
    machine.executeWord word keys =
      .done (({ machine with keypad := keys.getD machine.keypad } :
        Machine).drawAtIndex word.x word.y word.n) := by
  have accepted : checkRange machine.index word.n.val = none := by
    apply checkRange_eq_none_iff.mpr
    unfold HoldsSprite at holds
    omega
  rw [Opcode.executeWord_eq_execute, (Word.Means.draw isDrawing).ofWord_eq]
  exact execute_eq_done_iff.mpr ⟨accepted, rfl, rfl⟩

theorem mem_drawAtIndex_iff
    {machine : Machine} {word : Word} (holds : machine.HoldsSprite word)
    {cell : Cell} :
    cell ∈ (machine.drawAtIndex word.x word.y word.n).display ↔
      Xor (cell ∈ machine.display) (machine.SpriteMarks word cell) := by
  rw [← marks_slice_iff holds]
  exact Display.mem_draw_iff_xor

/-- The flag tells whether the sprite covers a lit cell. -/
theorem flag_drawAtIndex_iff
    {machine : Machine} {word : Word} (holds : machine.HoldsSprite word) :
    (machine.drawAtIndex word.x word.y word.n).register 0xF = 1 ↔
      ∃ cell, cell ∈ machine.display ∧ machine.SpriteMarks word cell := by
  have collides :
      (machine.drawAtIndex word.x word.y word.n).register 0xF = 1 ↔
        machine.display.hits
          ((machine.register word.x).toNat % screenWidth : Nat)
          ((machine.register word.y).toNat % screenHeight : Nat)
          (machine.memory.slice machine.index.toNat word.n) = true :=
    register_setFlag_eq_one_iff _ _
  rw [Display.hits_iff_exists_marks] at collides
  simp only [marks_slice_iff holds] at collides
  exact collides

/-! ## The same drawing again -/

/-- A drawing that does not take its place from the flag register leaves the
marked cells of the word as they are. -/
theorem spriteMarks_drawAtIndex_iff
    (machine : Machine) {word : Word}
    (columnElsewhere : word.x ≠ 0xF) (rowElsewhere : word.y ≠ 0xF)
    (cell : Cell) :
    (machine.drawAtIndex word.x word.y word.n).SpriteMarks word cell ↔
      machine.SpriteMarks word cell := by
  have sameColumn :
      (machine.drawAtIndex word.x word.y word.n).register word.x =
        machine.register word.x :=
    register_setFlag_of_ne _ _ columnElsewhere
  have sameRow :
      (machine.drawAtIndex word.x word.y word.n).register word.y =
        machine.register word.y :=
    register_setFlag_of_ne _ _ rowElsewhere
  unfold SpriteMarks
  rw [sameColumn, sameRow]
  exact Iff.rfl

/-- A word of group `D` whose sprite lies in memory draws at the place that the
registers name before the flag is stored, also if the flag register is one of
them.  If it is not, executing the word again restores everything but the flag
and the keypad, and the flag then tells whether the first time lit a cell. -/
theorem redraw_restores
    {machine : Machine} {word : Word} (isDrawing : word.group = 0xD)
    (holds : machine.HoldsSprite word) (keys otherKeys : Option KeySet) :
    ∃ once,
      machine.executeWord word keys = .done once ∧
      once =
        { machine with
          display := once.display
          registers := once.registers
          keypad := keys.getD machine.keypad } ∧
      (∀ cell,
        cell ∈ once.display ↔
          Xor (cell ∈ machine.display) (machine.SpriteMarks word cell)) ∧
      (∀ number, number ≠ 0xF →
        once.register number = machine.register number) ∧
      once.register 0xF ≤ 1 ∧
      (once.register 0xF = 1 ↔
        ∃ cell, cell ∈ machine.display ∧ machine.SpriteMarks word cell) ∧
      (word.x ≠ 0xF → word.y ≠ 0xF →
        ∃ twice,
          once.executeWord word otherKeys = .done twice ∧
          twice =
            { machine with
              registers := twice.registers
              keypad := otherKeys.getD (keys.getD machine.keypad) } ∧
          (∀ number, number ≠ 0xF →
            twice.register number = machine.register number) ∧
          twice.register 0xF ≤ 1 ∧
          (twice.register 0xF = 1 ↔
            ∃ cell, cell ∉ machine.display ∧ cell ∈ once.display)) := by
  let held : Machine := { machine with keypad := keys.getD machine.keypad }
  let once := held.drawAtIndex word.x word.y word.n
  have toggled : ∀ cell, cell ∈ once.display ↔
      Xor (cell ∈ machine.display) (machine.SpriteMarks word cell) :=
    fun _ => mem_drawAtIndex_iff holds
  have kept : ∀ number, number ≠ 0xF →
      once.register number = machine.register number :=
    fun _ notFlag => register_setFlag_of_ne _ _ notFlag
  refine ⟨once, executeWord_of_drawing isDrawing holds keys, rfl, toggled, kept,
    register_setFlag_le_one _ _, flag_drawAtIndex_iff holds, ?_⟩
  intro columnElsewhere rowElsewhere
  let again : Machine := { once with keypad := otherKeys.getD once.keypad }
  let twice := again.drawAtIndex word.x word.y word.n
  have stillHolds : again.HoldsSprite word := holds
  have sameMarks : ∀ cell,
      again.SpriteMarks word cell ↔ machine.SpriteMarks word cell :=
    held.spriteMarks_drawAtIndex_iff columnElsewhere rowElsewhere
  have restored : twice.display = machine.display := by
    apply SortedSet.ext_mem
    intro cell
    have toggledAgain : cell ∈ twice.display ↔
        Xor (cell ∈ once.display) (again.SpriteMarks word cell) :=
      mem_drawAtIndex_iff stillHolds
    rw [toggledAgain, toggled, sameMarks]
    grind
  have collidesAgain : twice.register 0xF = 1 ↔
      ∃ cell, cell ∉ machine.display ∧ cell ∈ once.display := by
    have collides : twice.register 0xF = 1 ↔
        ∃ cell, cell ∈ once.display ∧ again.SpriteMarks word cell :=
      flag_drawAtIndex_iff stillHolds
    rw [collides]
    apply exists_congr
    intro cell
    rw [toggled, sameMarks]
    grind
  have ranAgain : once.executeWord word otherKeys = .done twice :=
    executeWord_of_drawing isDrawing (show once.HoldsSprite word from holds)
      otherKeys
  refine ⟨twice, ranAgain, ?_, ?_, register_setFlag_le_one _ _, collidesAgain⟩
  · rw [← restored]
    rfl
  · intro number notFlag
    have keptAgain : twice.register number = once.register number :=
      register_setFlag_of_ne _ _ notFlag
    exact keptAgain.trans (kept number notFlag)

/-- A machine that is about to draw the first glyph over the lower right
corner, where one cell is lit. -/
def cornered : Machine :=
  { ((initial .absent none).setRegister 0 62).setRegister 1 30 with
    index := 0x050
    display := .singleton ⟨62, 30⟩ }

/-- A sprite at the corner of the screen is drawn twice. -/
theorem redraw_restores_cornered :
    (Word.ofInt 0xD015).group = 0xD ∧ cornered.HoldsSprite (.ofInt 0xD015) ∧
      ∃ once twice,
        cornered.executeWord (.ofInt 0xD015) none = .done once ∧
        (once.register 0xF = 1 ↔
          ∃ cell, cell ∈ cornered.display ∧
            cornered.SpriteMarks (.ofInt 0xD015) cell) ∧
        once.executeWord (.ofInt 0xD015) none = .done twice ∧
        twice.display = cornered.display ∧
        (twice.register 0xF = 1 ↔
          ∃ cell, cell ∉ cornered.display ∧ cell ∈ once.display) := by
  have isDrawing : (Word.ofInt 0xD015).group = 0xD := by decide
  have holds : cornered.HoldsSprite (.ofInt 0xD015) := .inr (by decide)
  obtain ⟨once, ran, _, _, _, _, collides, restores⟩ :=
    redraw_restores isDrawing holds none none
  obtain ⟨twice, ranAgain, isTwice, _, _, collidesAgain⟩ :=
    restores (by decide) (by decide)
  have restored : twice.display = cornered.display := by
    rw [isTwice]
  exact ⟨isDrawing, holds, once, twice, ran, collides, ranAgain, restored,
    collidesAgain⟩

end Machine

end Chip8
