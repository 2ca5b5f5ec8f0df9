import Mathlib.Data.List.GetD
import Chip8.Proofs.Dispatch
import Chip8.Proofs.Drawing
import Chip8.Proofs.Outcomes
import Chip8.Proofs.Painting
import Chip8.Proofs.Reachability

/-!
# What a run leaves in memory

Two instructions store bytes, and where they store them depends on the index
at that moment.  A byte that no completed store of a run covers is still the
one that was there when the program was loaded, however often the program
changes itself elsewhere.  As long as no store covers the font, the machine
therefore draws the glyphs that it was built with.
-/

namespace Chip8

namespace Instruction

private theorem written_ofWord (word : Word) :
    (ofWord word).written =
      if word.group = 0xF ∧ word.nn = 0x33 then 3
      else if word.group = 0xF ∧ word.nn = 0x55 then (word.x : Nat) + 1
      else 0 := by
  have means := word.means_ofWord
  generalize ofWord word = instruction at means
  cases means with
  | ignore unassigned =>
      unfold Word.Unassigned at unassigned
      grind [written]
  | storeDecimal isGroup isByte | storeRegisters isGroup isByte
  | loadRegisters isGroup isByte | readDelay isGroup isByte
  | awaitKey isGroup isByte | setDelay isGroup isByte
  | setSound isGroup isByte | addToIndex isGroup isByte
  | pointAtGlyph isGroup isByte => simp [isGroup, isByte, written]
  | _ => simp_all [written]

end Instruction

namespace Machine

/-! ## Which bytes a move stores -/

/-- The word at the counter stores a byte at the address: one of the three
digits of `FX33`, or one of the registers of `FX55`. -/
def StoresAt (machine : Machine) (address : Nat) : Prop :=
  machine.wordAtCounter.group = 0xF ∧
    (machine.wordAtCounter.nn = 0x33 ∧
        machine.index ≤ address ∧ address ≤ machine.index + 2 ∨
      machine.wordAtCounter.nn = 0x55 ∧
        machine.index ≤ address ∧
          address ≤ machine.index + machine.wordAtCounter.x)

private theorem read_memory_of_cycle
    {machine next : Machine} {keys : KeySet}
    (complete : machine.cycle keys = .done next) (address : Nat) :
    next.memory.read address = machine.memory.read address ∨
      machine.StoresAt address := by
  by_cases stores : machine.StoresAt address
  · exact .inr stores
  obtain ⟨_, executed⟩ := cycle_eq_done_iff.mp complete
  obtain ⟨accepted, _, rfl⟩ := execute_eq_done_iff.mp executed
  have range :
      machine.instructionAtCounter.written = 0 ∨ 0 ≤ machine.index := by
    by_contra beyond
    have within := machine.instructionAtCounter.written_le_reach
    have refused :
        (machine.ready keys).refusal machine.instructionAtCounter = some _ :=
      refusal_eq_some_iff.mpr (.inr (.inr ⟨?_, rfl⟩))
    · rw [accepted] at refused
      contradiction
    · change _ ∧ (machine.index < 0 ∨ _)
      omega
  refine .inl (read_memory_carryOut_of_unwritten _ _ ?_)
  change address < machine.index.toNat ∨
    machine.index.toNat + (Instruction.ofWord machine.wordAtCounter).written ≤
      address
  have length := Instruction.written_ofWord machine.wordAtCounter
  rw [instructionAtCounter] at range
  unfold StoresAt at stores
  split_ifs at length <;> omega

/-- A move other than loading changes a byte only if the word at the counter
stores there. -/
theorem Step.read_memory
    {position next : Position} {move : Move}
    (step : Step position move next)
    (notLoad : ∀ program, move ≠ .load program) (address : Nat) :
    next.machine.memory.read address = position.machine.memory.read address ∨
      (∃ keys, move = .cycle keys position.machine.wordAtCounter) ∧
        position.machine.StoresAt address := by
  cases step with
  | loaded _ => exact absurd rfl (notLoad _)
  | rejected _ => exact absurd rfl (notLoad _)
  | @completed keys _ complete =>
      rcases read_memory_of_cycle complete address with same | stores
      · exact .inl same
      · exact .inr ⟨⟨keys, rfl⟩, stores⟩
  | faulted broken =>
      obtain ⟨unchanged, _⟩ := cycle_eq_fault_iff.mp broken
      exact .inl (by rw [unchanged])
  | countedDown => exact .inl rfl
  | steppedOver _ => exact .inl rfl

/-! ## Which bytes a run stores -/

/-- In the course of the moves, a completed cycle has stored a byte at the
address. -/
def StoredIn (start : Position) (moves : List Move) (address : Nat) : Prop :=
  ∃ earlier middle keys later,
    moves = earlier ++ .cycle keys middle.machine.wordAtCounter :: later ∧
      Run start earlier middle ∧ middle.machine.StoresAt address

private theorem not_storedIn_nil (start : Position) (address : Nat) :
    ¬ StoredIn start [] address := by
  rintro ⟨earlier, middle, keys, later, isMoves, _⟩
  simp at isMoves

/-- The latest move stores a byte, or an earlier one did. -/
theorem storedIn_append_single_iff
    {start : Position} {moves : List Move} {move : Move} {address : Nat} :
    StoredIn start (moves ++ [move]) address ↔
      StoredIn start moves address ∨
        ∃ middle keys, Run start moves middle ∧
          move = .cycle keys middle.machine.wordAtCounter ∧
          middle.machine.StoresAt address := by
  constructor
  · rintro ⟨earlier, middle, keys, later, isMoves, run, stores⟩
    rcases List.eq_nil_or_concat later with rfl | ⟨rest, last, rfl⟩
    · obtain ⟨rfl, isMove⟩ := List.append_inj' isMoves rfl
      exact .inr ⟨middle, keys, run, List.singleton_inj.mp isMove, stores⟩
    · rw [List.concat_eq_append, ← List.cons_append, ← List.append_assoc]
        at isMoves
      obtain ⟨rfl, _⟩ := List.append_inj' isMoves rfl
      exact .inl ⟨earlier, middle, keys, rest, rfl, run, stores⟩
  · rintro (⟨earlier, middle, keys, later, rfl, run, stores⟩ |
      ⟨middle, keys, run, rfl, stores⟩)
    · refine ⟨earlier, middle, keys, later ++ [move], ?_, run, stores⟩
      rw [List.append_assoc, List.cons_append]
    · exact ⟨moves, middle, keys, [], rfl, run, stores⟩

/-- A byte stays as it was unless a completed cycle stores another one in its
place. -/
theorem Run.read_memory
    {start finish : Position} {moves : List Move}
    (run : Run start moves finish)
    (noLoad : ∀ program, .load program ∉ moves) (address : Nat) :
    finish.machine.memory.read address = start.machine.memory.read address ∨
      StoredIn start moves address := by
  induction run with
  | refl => exact .inl rfl
  | @tail moves middle finish move earlier latest inductionHypothesis =>
      rw [storedIn_append_single_iff]
      have earlierNoLoad : ∀ program, .load program ∉ moves :=
        fun program belongs =>
          noLoad program (List.mem_append_left [move] belongs)
      have notLoad : ∀ program, move ≠ .load program := by
        rintro program rfl
        exact noLoad program (by simp)
      rcases latest.read_memory notLoad address with
        same | ⟨⟨keys, isCycle⟩, stores⟩
      · rcases inductionHypothesis earlierNoLoad with before | stored
        · exact .inl (same.trans before)
        · exact .inr (.inl stored)
      · exact .inr (.inr ⟨middle, keys, earlier, isCycle, stores⟩)

/-! ## The image that a run starts from -/

/-- The byte at an address of a new machine with a program: the font lies from
`0x050` to `0x09F`, the program from `0x200` on, and zeros elsewhere. -/
def image (program : List UInt8) (address : Nat) : UInt8 :=
  if 0x050 ≤ address ∧ address ≤ 0x09F then
    Font.glyphs.getD (address - 0x050) 0
  else if 0x200 ≤ address then program.getD (address - 0x200) 0
  else 0

private theorem read_initialMemory (address : Nat) :
    initialMemory.read address =
      if 0x050 ≤ address ∧ address ≤ 0x09F then
        Font.glyphs.getD (address - 0x050) 0
      else 0 := by
  have length : Font.glyphs.length = 80 := rfl
  have zero : (Bytes.zeros memorySize).read address = 0 := by
    by_cases inside : address < memorySize <;>
      simp [Bytes.read, Bytes.zeros, Vector.getD, inside]
  rw [initialMemory, Bytes.read_overwrite, zero, length, Font.start,
    memorySize]
  by_cases inFont : 0x050 ≤ address ∧ address ≤ 0x09F
  · rw [if_pos inFont, if_pos (by omega)]
  · rw [if_neg inFont, if_neg (by omega)]

private theorem read_loaded
    {source : RandomSource} {limit : Option Int} {program : List UInt8}
    {start : Machine}
    (accepted : (initial source limit).load program = .ok start)
    {address : Nat} (inside : address < memorySize) :
    start.memory.read address = image program address := by
  obtain ⟨fits, rfl⟩ := load_eq_ok_iff.mp accepted
  change (initialMemory.overwrite programStart program).read address = _
  rw [Bytes.read_overwrite, read_initialMemory, programStart, image]
  by_cases inFont : 0x050 ≤ address ∧ address ≤ 0x09F
  · rw [if_neg (by omega)]
    simp only [if_pos inFont]
  · simp only [if_neg inFont]
    by_cases behind : 0x200 ≤ address
    · rw [if_pos behind]
      by_cases inProgram : address < 0x200 + program.length
      · rw [if_pos ⟨behind, inProgram, inside⟩]
      · rw [if_neg (by omega), List.getD_eq_default _ _ (by omega)]
    · rw [if_neg behind, if_neg (by omega)]

/-! ## Drawing from the font -/

/-- The font of the machine is the one that it was built with. -/
def HasFont (machine : Machine) : Prop :=
  ∀ address, 0x050 ≤ address → address ≤ 0x09F →
    machine.memory.read address = Font.glyphs.getD (address - 0x050) 0

/-- A machine with the font has the glyph of every digit at its address. -/
theorem HasFont.slice
    {machine : Machine} (font : machine.HasFont)
    {digit : Nat} (isDigit : digit < 16) :
    machine.memory.slice (Font.address digit) Font.glyphHeight =
      Font.glyph digit := by
  have count : Font.glyphs.length = 80 := rfl
  apply List.ext_getElem
  · simp only [Bytes.length_slice, Font.glyph, List.length_take,
      List.length_drop, count, Font.glyphHeight]
    omega
  · intro offset belowSlice belowGlyph
    have below : offset < 5 := by simpa [Font.glyphHeight] using belowSlice
    have place :
        Font.address digit + offset - 0x050 = digit * 5 + offset := by
      simp only [Font.address, Font.start, Font.glyphHeight]
      omega
    have stored := font (Font.address digit + offset)
      (by simp only [Font.address, Font.start, Font.glyphHeight]; omega)
      (by simp only [Font.address, Font.start, Font.glyphHeight]; omega)
    have bound : digit * 5 + offset < Font.glyphs.length := by omega
    rw [place, List.getD_eq_getElem _ _ bound] at stored
    simpa [Bytes.slice, Font.glyph, Font.glyphHeight] using stored

end Machine

namespace Font

/-- The glyph of a digit covers the cell if its top left cell lies at
`(x, y)`.  What lies beyond the right edge is left out. -/
def GlyphCovers (digit x y : Nat) (cell : Cell) : Prop :=
  ∃ row column : Nat, row < 5 ∧ column < 8 ∧
    ((glyph digit).getD row 0).toNat.testBit (7 - column) = true ∧
    x + column < 64 ∧ cell = ⟨x + column, y + row⟩

private theorem mem_cells_glyph_iff
    {digit x y : Nat} (isDigit : digit < 16) {cell : Cell} :
    cell ∈ Sprite.cells x y (glyph digit) ↔ GlyphCovers digit x y cell := by
  have height : (glyph digit).length = 5 := by
    have count : glyphs.length = 80 := rfl
    simp only [glyph, List.length_take, List.length_drop, count, glyphHeight]
    omega
  rw [Sprite.mem_cells_iff_marks]
  constructor
  · intro marked
    obtain ⟨row, column, below, bound, isSet, visible, isCell⟩ := marked
    exact ⟨row, column, by omega, bound, isSet, by omega, isCell⟩
  · intro covered
    obtain ⟨row, column, below, bound, isSet, visible, isCell⟩ := covered
    exact ⟨row, column, by omega, bound, isSet, by omega, isCell⟩

end Font

namespace Machine

/-- With its font intact, a machine that is told to point at the glyph of a
digit and then to draw five rows toggles the cells of this glyph. -/
theorem HasFont.draw
    {machine : Machine} (font : machine.HasFont)
    {pointing drawing : Word}
    (isPointing : pointing.group = 0xF ∧ pointing.nn = 0x29)
    (isDrawing : drawing.group = 0xD ∧ drawing.n = 5)
    (keys otherKeys : Option KeySet) :
    ∃ pointed drawn,
      machine.executeWord pointing keys = .done pointed ∧
      pointed.executeWord drawing otherKeys = .done drawn ∧
      ∀ cell,
        let covered :=
          Font.GlyphCovers ((machine.register pointing.x).toNat % 16)
            ((machine.register drawing.x).toNat % 64)
            ((machine.register drawing.y).toNat % 32) cell
        cell ∈ drawn.display ↔
          (cell ∈ machine.display ∧ ¬ covered) ∨
            (covered ∧ cell ∉ machine.display) := by
  have point := (Word.Means.pointAtGlyph isPointing.1 isPointing.2).ofWord_eq
  have draw := (Word.Means.draw isDrawing.1).ofWord_eq
  rw [isDrawing.2] at draw
  let digit := (machine.register pointing.x).toNat % 16
  have isDigit : digit < 16 := Nat.mod_lt _ (by decide)
  let pointed : Machine :=
    { machine with
      keypad := keys.getD machine.keypad
      index := Font.address digit }
  let ready : Machine :=
    { pointed with keypad := otherKeys.getD pointed.keypad }
  have accepted : ready.refusal (.draw drawing.x drawing.y 5) = none := by
    refine checkRange_eq_none_iff.mpr (.inr ?_)
    change 0 ≤ (Font.address digit : Int) ∧ (Font.address digit : Int) + 5 ≤ 4096
    simp only [Font.address, Font.start, Font.glyphHeight]
    omega
  refine ⟨pointed, ready.carryOut (.draw drawing.x drawing.y 5), ?_, ?_, ?_⟩
  · rw [Opcode.executeWord_eq_execute, point]
    rfl
  · rw [Opcode.executeWord_eq_execute, draw]
    exact execute_eq_done_iff.mpr ⟨accepted, rfl, rfl⟩
  · intro cell
    rw [display_carryOut]
    change cell ∈ machine.display.draw _ _
      (machine.memory.slice (Font.address digit) Font.glyphHeight) ↔ _
    rw [font.slice isDigit, Display.mem_draw_iff,
      Font.mem_cells_glyph_iff isDigit]
    rfl

/-- Along every run of a new machine with a program, memory keeps the image
that the run started from, apart from the bytes that completed stores cover.
Until a store covers the font, pointing at the glyph of a digit and drawing it
toggles exactly the cells of this glyph. -/
theorem run_stores_only_at_index
    {source : RandomSource} {limit : Option Int} {program : List UInt8}
    {fresh start : Machine} {moves : List Move} {finish : Position}
    (created : create (.ok source) limit = .ok fresh)
    (accepted : fresh.load program = .ok start)
    (run : Run { machine := start } moves finish)
    (noLoad : ∀ other, .load other ∉ moves) :
    (∀ address < 4096,
      ¬ StoredIn { machine := start } moves address →
        finish.machine.memory.read address = image program address) ∧
    ((∀ address, 0x050 ≤ address → address ≤ 0x09F →
        ¬ StoredIn { machine := start } moves address) →
      ∀ (pointing drawing : Word) (keys otherKeys : Option KeySet),
        pointing.group = 0xF ∧ pointing.nn = 0x29 →
        drawing.group = 0xD ∧ drawing.n = 5 →
        ∃ pointed drawn,
          finish.machine.executeWord pointing keys = .done pointed ∧
          pointed.executeWord drawing otherKeys = .done drawn ∧
          ∀ cell,
            let covered :=
              Font.GlyphCovers
                ((finish.machine.register pointing.x).toNat % 16)
                ((finish.machine.register drawing.x).toNat % 64)
                ((finish.machine.register drawing.y).toNat % 32) cell
            cell ∈ drawn.display ↔
              (cell ∈ finish.machine.display ∧ ¬ covered) ∨
                (covered ∧ cell ∉ finish.machine.display)) := by
  obtain ⟨_, rfl⟩ := create_eq_ok_iff.mp created
  have kept : ∀ address < 4096,
      ¬ StoredIn { machine := start } moves address →
        finish.machine.memory.read address = image program address := by
    intro address inside unstored
    rcases run.read_memory noLoad address with same | stored
    · exact same.trans (read_loaded accepted inside)
    · exact absurd stored unstored
  refine ⟨kept, ?_⟩
  intro untouched pointing drawing keys otherKeys isPointing isDrawing
  have font : finish.machine.HasFont := by
    intro address lower upper
    rw [kept address (by omega) (untouched address lower upper), image,
      if_pos ⟨lower, upper⟩]
  exact font.draw isPointing isDrawing keys otherKeys

/-- A program that stores three digits directly below the font. -/
def belowFont : List UInt8 := [0xA0, 0x4D, 0x60, 0xFB, 0xF0, 0x33]

/-- A machine in the course of this program, before the store. -/
def storing (counter index : Int) (value : UInt8) : Machine :=
  { initial (.replay ⟨[7], 0⟩) none with
    memory := initialMemory.overwrite programStart belowFont
    registers := (Bytes.zeros 16).set 0 value
    counter := counter
    index := index }

def storedDigits : Machine :=
  { storing 0x206 0x4D 251 with
    memory := (initialMemory.overwrite programStart belowFont).overwrite 0x4D
      [2, 5, 1] }

theorem wordAtCounter_storing
    (offset : Nat) (inside : offset < 5) (index : Int) (value : UInt8) :
    (storing (0x200 + offset : Nat) index value).wordAtCounter =
      .ofBytes (belowFont.getD offset 0) (belowFont.getD (offset + 1) 0) := by
  have length : belowFont.length = 6 := rfl
  have size : memorySize = 4096 := rfl
  simp only [wordAtCounter, storing, programStart, Int.toNat_natCast,
    Bytes.read_overwrite]
  rw [if_pos (by omega), if_pos (by omega), Nat.add_sub_cancel_left,
    Nat.add_assoc, Nat.add_sub_cancel_left]

theorem wordAtCounter_storing_index :
    (storing 0x200 0 0).wordAtCounter = .ofBytes 0xA0 0x4D :=
  wordAtCounter_storing 0 (by decide) 0 0

theorem wordAtCounter_storing_value :
    (storing 0x202 0x4D 0).wordAtCounter = .ofBytes 0x60 0xFB :=
  wordAtCounter_storing 2 (by decide) 0x4D 0

theorem wordAtCounter_storing_digits :
    (storing 0x204 0x4D 251).wordAtCounter = .ofBytes 0xF0 0x33 :=
  wordAtCounter_storing 4 (by decide) 0x4D 251

theorem step_of_execute
    {machine next : Machine} {word : Word}
    (inside : machine.canFetch = true)
    (isWord : machine.wordAtCounter = word)
    (executed : (machine.ready ∅).execute (.ofWord word) = .done next) :
    Step { machine := machine } (.cycle ∅ word) { machine := next } := by
  subst isWord
  exact .completed (cycle_eq_done_iff.mpr ⟨inside, executed⟩)

def storingMoves : List Move :=
  [.cycle ∅ (.ofBytes 0xA0 0x4D), .cycle ∅ (.ofBytes 0x60 0xFB),
    .cycle ∅ (.ofBytes 0xF0 0x33)]

/-- The three moves of the program, one by one. -/
theorem run_storing :
    let start : Position := { machine := storing 0x200 0 0 }
    Run start (storingMoves.take 1) { machine := storing 0x202 0x4D 0 } ∧
      Run start (storingMoves.take 2) { machine := storing 0x204 0x4D 251 } ∧
      Run start storingMoves { machine := storedDigits } := by
  intro start
  have indexSet :
      Run start (storingMoves.take 1) { machine := storing 0x202 0x4D 0 } :=
    .tail .refl (step_of_execute (by decide) wordAtCounter_storing_index rfl)
  have valueSet :
      Run start (storingMoves.take 2) { machine := storing 0x204 0x4D 251 } :=
    .tail indexSet
      (step_of_execute (by decide) wordAtCounter_storing_value rfl)
  have stored : Run start storingMoves { machine := storedDigits } :=
    .tail valueSet
      (step_of_execute (by decide) wordAtCounter_storing_digits rfl)
  exact ⟨indexSet, valueSet, stored⟩

/-- The program stores from `0x04D` to `0x04F` and nowhere else. -/
theorem bounds_of_storedIn_storing
    {address : Nat}
    (stored : StoredIn { machine := storing 0x200 0 0 } storingMoves address) :
    0x04D ≤ address ∧ address ≤ 0x04F := by
  obtain ⟨toValue, toStore, _⟩ := run_storing
  rcases (@storedIn_append_single_iff _ [_, _] _ _).mp stored with
    earlier | ⟨middle, _, run, _, stores⟩
  · rcases (@storedIn_append_single_iff _ [_] _ _).mp earlier with
      first | ⟨middle, _, run, _, stores⟩
    · rcases (@storedIn_append_single_iff _ [] _ _).mp first with
        none | ⟨middle, _, run, _, stores⟩
      · exact absurd none (not_storedIn_nil _ _)
      · obtain rfl := run_nil_iff.mp run
        have isGroup := stores.1
        rw [wordAtCounter_storing_index] at isGroup
        exact absurd isGroup (by decide)
    · obtain rfl := run.unique toValue
      have isGroup := stores.1
      rw [wordAtCounter_storing_value] at isGroup
      exact absurd isGroup (by decide)
  · obtain rfl := run.unique toStore
    obtain ⟨_, ⟨_, lower, upper⟩ | ⟨isByte, _⟩⟩ := stores
    · simp only [storing] at lower upper
      omega
    · rw [wordAtCounter_storing_digits] at isByte
      exact absurd isByte (by decide)

theorem run_stores_only_at_index_belowFont :
    storedDigits.memory.read 0x04C = 0 ∧
      storedDigits.memory.read 0x050 = 0xF0 ∧
      ∃ pointed drawn,
        storedDigits.executeWord (.ofBytes 0xF0 0x29) none = .done pointed ∧
        pointed.executeWord (.ofBytes 0xD1 0x15) none = .done drawn ∧
        ∀ cell, cell ∈ drawn.display ↔ Font.GlyphCovers 0xB 0 0 cell := by
  have accepted :
      (initial (.replay ⟨[7], 0⟩) none).load belowFont =
        .ok (storing 0x200 0 0) :=
    rfl
  have untouched : ∀ address, ¬ (0x04D ≤ address ∧ address ≤ 0x04F) →
      ¬ StoredIn { machine := storing 0x200 0 0 } storingMoves address :=
    fun address outside stored =>
      outside (bounds_of_storedIn_storing stored)
  obtain ⟨kept, drawing⟩ :=
    run_stores_only_at_index (create_eq_ok_iff.mpr ⟨by simp, rfl⟩) accepted
      run_storing.2.2 (by simp [storingMoves])
  refine ⟨kept 0x04C (by decide) (untouched _ (by decide)),
    kept 0x050 (by decide) (untouched _ (by decide)), ?_⟩
  have fontUntouched : ∀ address, 0x050 ≤ address → address ≤ 0x09F →
      ¬ StoredIn { machine := storing 0x200 0 0 } storingMoves address := by
    intro address lower _
    exact untouched address (by omega)
  obtain ⟨pointed, drawn, points, draws, toggled⟩ :=
    drawing fontUntouched (.ofBytes 0xF0 0x29) (.ofBytes 0xD1 0x15) none none
      (by decide) (by decide)
  refine ⟨pointed, drawn, points, draws, fun cell => ?_⟩
  have dark : cell ∉ storedDigits.display := SortedSet.not_mem_empty cell
  have toggles : cell ∈ drawn.display ↔
      (cell ∈ storedDigits.display ∧ ¬ Font.GlyphCovers 0xB 0 0 cell) ∨
        (Font.GlyphCovers 0xB 0 0 cell ∧ cell ∉ storedDigits.display) :=
    toggled cell
  simpa [dark] using toggles

end Machine

end Chip8
