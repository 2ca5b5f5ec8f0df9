import Mathlib.Algebra.Ring.Parity
import Mathlib.Data.Set.SymmDiff
import Mathlib.Order.ConditionallyCompleteLattice.Basic
import Chip8.Machine.Execute
import Chip8.Proofs.Painting

/-!
# The algebra of sprites

Drawing a sprite is the symmetric difference with the cells that it marks, and
it reports whether one of these cells was lit.  So a sequence of sprites turns
a cell over as often as there are sprites that mark it: the picture at the end
does not depend on their order, although the reports on the way do.
-/

namespace Chip8

namespace Display

variable {display : Display} {x y : Int} {sprite : Sprite}

theorem mem_draw_iff_xor
    {cell : Cell} :
    cell ∈ display.draw x y sprite ↔
      Xor (cell ∈ display) (sprite.Marks x y cell) := by
  rw [mem_draw_iff, Sprite.mem_cells_iff_marks]
  exact Iff.rfl

theorem hits_iff_exists_marks :
    display.hits x y sprite = true ↔
      ∃ cell, cell ∈ display ∧ sprite.Marks x y cell := by
  rw [hits_iff]
  simp only [Sprite.mem_cells_iff_marks]

/-- A display ends somewhere at the bottom. -/
theorem exists_dark_row (display : Display) :
    ∃ row : Int, ∀ cell ∈ display, cell.y < row := by
  have bounded : ∀ cells : List Cell,
      ∃ row : Int, ∀ cell ∈ cells, cell.y < row := by
    intro cells
    induction cells with
    | nil => exact ⟨0, List.forall_mem_nil _⟩
    | cons first rest inductionHypothesis =>
        obtain ⟨row, below⟩ := inductionHypothesis
        refine ⟨max (first.y + 1) row, List.forall_mem_cons.mpr ⟨by omega, ?_⟩⟩
        intro cell belongs
        have belowRow := below cell belongs
        omega
  exact bounded display.toList

end Display

namespace Machine

/-- Drawing a sprite changes the display to its symmetric difference with the
marked cells and nothing else, and a collision is reported exactly if a marked
cell was lit before.  Painting cell by cell, in which each cell is tested
against the display as far as it has been painted, comes to the same. -/
theorem drawSprite_toggles_marks
    (machine : Machine) (x y : Int) (sprite : Sprite) :
    let before : Set Cell := {cell | cell ∈ machine.display}
    let marked : Set Cell := {cell | sprite.Marks x y cell}
    let drawn := machine.drawSprite x y sprite
    {cell | cell ∈ drawn.display} = symmDiff before marked ∧
      drawn = { machine with display := drawn.display } ∧
      (machine.display.hits x y sprite = true ↔ (before ∩ marked).Nonempty) ∧
      Canvas.paintRows x y sprite { display := machine.display } =
        { display := drawn.display
          turnedOff := machine.display.hits x y sprite } := by
  intro before marked drawn
  have toggled : {cell | cell ∈ drawn.display} = symmDiff before marked := by
    apply Set.ext
    intro cell
    rw [Set.mem_symmDiff]
    exact Display.mem_draw_iff_xor
  have collides :
      machine.display.hits x y sprite = true ↔ (before ∩ marked).Nonempty :=
    Display.hits_iff_exists_marks
  exact ⟨toggled, rfl, collides,
    Canvas.paintRows_eq_draw machine.display x y sprite⟩

end Machine

/-! ## Sequences of sprites -/

/-- A sprite with the place of its top left cell. -/
structure Stamp where
  x : Int
  y : Int
  sprite : Sprite

namespace Stamp

def Marks (stamp : Stamp) (cell : Cell) : Prop :=
  stamp.sprite.Marks stamp.x stamp.y cell

instance (stamp : Stamp) (cell : Cell) : Decidable (stamp.Marks cell) :=
  inferInstanceAs (Decidable (stamp.sprite.Marks stamp.x stamp.y cell))

def dot (x y : Int) : Stamp := ⟨x, y, [0x80]⟩

/-- A sprite of a single cell marks this cell. -/
theorem marks_dot_iff
    {x y : Int} (visible : x < 64) {cell : Cell} :
    (dot x y).Marks cell ↔ cell = ⟨x, y⟩ := by
  have onlyFirst : ∀ column < 8,
      (0x80 : UInt8).toNat.testBit (7 - column) = true → column = 0 := by
    decide
  constructor
  · intro marked
    obtain ⟨row, column, below, bound, isSet, _, isCell⟩ := marked
    have firstRow : row = 0 := by
      simpa [dot] using below
    subst firstRow
    have firstColumn : column = 0 := onlyFirst column bound isSet
    subst firstColumn
    simpa [dot] using isCell
  · intro isCell
    have isSet : (0x80 : UInt8).toNat.testBit (7 - 0) = true := by decide
    exact ⟨0, 0, Nat.one_pos, by decide, isSet, by simpa [dot] using visible,
      by simpa [dot] using isCell⟩

end Stamp

namespace Machine

def drawAll (machine : Machine) (stamps : List Stamp) : Machine :=
  stamps.foldl (fun machine stamp =>
    machine.drawSprite stamp.x stamp.y stamp.sprite) machine

/-- Which of the sprites turn a lit cell off when they are drawn one after the
other. -/
def collisions : Machine → List Stamp → List Bool
  | _, [] => []
  | machine, stamp :: rest =>
      machine.display.hits stamp.x stamp.y stamp.sprite ::
        collisions (machine.drawSprite stamp.x stamp.y stamp.sprite) rest

theorem drawAll_eq (machine : Machine) (stamps : List Stamp) :
    machine.drawAll stamps =
      { machine with display := (machine.drawAll stamps).display } := by
  induction stamps generalizing machine with
  | nil => rfl
  | cons stamp rest inductionHypothesis =>
      exact inductionHypothesis (machine.drawSprite stamp.x stamp.y stamp.sprite)

/-- Drawing sprites changes the cells that an odd number of them mark. -/
theorem mem_drawAll_iff
    (machine : Machine) (stamps : List Stamp) (cell : Cell) :
    cell ∈ (machine.drawAll stamps).display ↔
      Xor (cell ∈ machine.display)
        (Odd (stamps.countP fun stamp => stamp.Marks cell)) := by
  induction stamps generalizing machine with
  | nil => simp [drawAll, xor_def]
  | cons stamp rest inductionHypothesis =>
      have first :
          cell ∈ (machine.drawSprite stamp.x stamp.y stamp.sprite).display ↔
            Xor (cell ∈ machine.display) (stamp.Marks cell) :=
        Display.mem_draw_iff_xor
      have later := inductionHypothesis
        (machine.drawSprite stamp.x stamp.y stamp.sprite)
      rw [first] at later
      -- the first sprite turns the cell over once more if it marks it
      by_cases marked : stamp.Marks cell
      · have oneMore :
            (stamp :: rest).countP (fun stamp => stamp.Marks cell) =
              rest.countP (fun stamp => stamp.Marks cell) + 1 :=
          List.countP_cons_of_pos (by simpa using marked)
        rw [oneMore, Nat.odd_add_one]
        refine later.trans ?_
        grind
      · have same :
            (stamp :: rest).countP (fun stamp => stamp.Marks cell) =
              rest.countP (fun stamp => stamp.Marks cell) :=
          List.countP_cons_of_neg (by simpa using marked)
        rw [same]
        refine later.trans ?_
        grind

/-- On every display there is an order of sprites that collides in other places
than another order of the same sprites. -/
theorem exists_collisions_ne (machine : Machine) :
    ∃ first second : List Stamp,
      first.Perm second ∧
        machine.collisions first ≠ machine.collisions second := by
  obtain ⟨row, below⟩ := machine.display.exists_dark_row
  let left := Stamp.dot 0 row
  let right := Stamp.dot 1 row
  have dark : (⟨0, row⟩ : Cell) ∉ machine.display := by
    intro lit
    exact Int.lt_irrefl row (below _ lit)
  have alsoDark : (⟨1, row⟩ : Cell) ∉ machine.display := by
    intro lit
    exact Int.lt_irrefl row (below _ lit)
  let once := machine.drawSprite left.x left.y left.sprite
  have again : once.display.hits left.x left.y left.sprite = true := by
    refine Display.hits_iff_exists_marks.mpr ⟨⟨0, row⟩, ?_, ?_⟩
    · have marked : left.Marks ⟨0, row⟩ :=
        (Stamp.marks_dot_iff (by decide)).mpr rfl
      exact Display.mem_draw_iff_xor.mpr (.inr ⟨marked, dark⟩)
    · exact (Stamp.marks_dot_iff (by decide)).mpr rfl
  have beside : once.display.hits right.x right.y right.sprite ≠ true := by
    intro met
    obtain ⟨cell, lit, marked⟩ := Display.hits_iff_exists_marks.mp met
    have isCell : cell = ⟨1, row⟩ := (Stamp.marks_dot_iff (by decide)).mp marked
    subst isCell
    have unmarked : ¬ left.Marks ⟨1, row⟩ := by
      intro marks
      have same := (Stamp.marks_dot_iff (by decide)).mp marks
      simp at same
    rcases Display.mem_draw_iff_xor.mp lit with older | fresh
    · exact alsoDark older.1
    · exact unmarked fresh.1
  refine ⟨[left, left, right], [left, right, left],
    (List.Perm.swap right left []).cons left, ?_⟩
  intro same
  have sameSecond :
      once.display.hits left.x left.y left.sprite =
        once.display.hits right.x right.y right.sprite :=
    (List.cons.inj (List.cons.inj same).2).1
  exact beside (sameSecond ▸ again)

/-- Sprites that are drawn in another order leave the same machine.  A cell is
lit at the end if it was lit at the start or an odd number of sprites mark it,
but not both.  Which of the sprites collide may depend on the order. -/
theorem drawAll_of_perm
    {stamps permuted : List Stamp} (same : permuted.Perm stamps)
    (machine : Machine) :
    machine.drawAll permuted = machine.drawAll stamps ∧
      (∀ cell,
        cell ∈ (machine.drawAll permuted).display ↔
          Xor (cell ∈ machine.display)
            (Odd (stamps.countP fun stamp => stamp.Marks cell))) ∧
      ∃ first second : List Stamp,
        first.Perm second ∧
          machine.collisions first ≠ machine.collisions second := by
  have lit : ∀ cell,
      cell ∈ (machine.drawAll permuted).display ↔
        Xor (cell ∈ machine.display)
          (Odd (stamps.countP fun stamp => stamp.Marks cell)) := by
    intro cell
    rw [mem_drawAll_iff, same.countP_eq]
  have sameDisplay :
      (machine.drawAll permuted).display =
        (machine.drawAll stamps).display := by
    apply SortedSet.ext_mem
    intro cell
    rw [lit, mem_drawAll_iff]
  refine ⟨?_, lit, exists_collisions_ne machine⟩
  rw [drawAll_eq machine permuted, sameDisplay, ← drawAll_eq]

/-- Two sprites that overlap and lose columns at the right edge, and one that
starts to the left of the screen. -/
def overlapping : List Stamp :=
  [⟨60, 3, [0xFF, 0x81]⟩, ⟨62, 3, [0xF0]⟩, ⟨-2, 4, [0xFF]⟩]

def oneCell : Machine :=
  { initial .absent none with display := .singleton ⟨62, 3⟩ }

theorem drawAll_of_perm_overlapping :
    overlapping.reverse.Perm overlapping ∧
      oneCell.drawAll overlapping.reverse = oneCell.drawAll overlapping ∧
      ∀ cell,
        cell ∈ (oneCell.drawAll overlapping.reverse).display ↔
          Xor (cell ∈ oneCell.display)
            (Odd (overlapping.countP fun stamp => stamp.Marks cell)) := by
  have reversed : overlapping.reverse.Perm overlapping :=
    List.reverse_perm overlapping
  have law := drawAll_of_perm reversed oneCell
  exact ⟨reversed, law.1, law.2.1⟩

end Machine

end Chip8
