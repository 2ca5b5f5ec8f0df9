import Chip8.Proofs.Drawing

/-!
# Painting a sprite cell by cell

A sprite can be drawn by walking over its rows and, in each row, over the bits
from the left: a set bit toggles its cell, and the row ends at the right edge
of the screen.  The result is the symmetric difference with the cells of the
sprite, since no cell is visited twice, and a lit cell is turned off exactly
if the sprite meets the display.
-/

namespace Chip8

/-- A display in the making, and whether a lit cell has been turned off. -/
structure Canvas where
  display : Display
  turnedOff : Bool := false

namespace Canvas

/-- Turn a lit cell off and a dark cell on. -/
def toggle (canvas : Canvas) (cell : Cell) : Canvas :=
  if cell ∈ canvas.display.toList then
    { display := canvas.display.erase cell, turnedOff := true }
  else { canvas with display := canvas.display.insert cell }

/-- Paint the given columns of a row, up to the right edge. -/
def paintColumns (row : UInt8) (x y : Int) : List Nat → Canvas → Canvas
  | [], canvas => canvas
  | column :: rest, canvas =>
      if 64 ≤ x + column then canvas
      else if row.toNat.testBit (7 - column) then
        paintColumns row x y rest (canvas.toggle ⟨x + column, y⟩)
      else paintColumns row x y rest canvas

def paintRows (x : Int) : Int → List UInt8 → Canvas → Canvas
  | _, [], canvas => canvas
  | y, row :: rest, canvas =>
      paintRows x (y + 1) rest (canvas.paintColumns row x y (List.range 8))

/-! ## Toggling a list of cells -/

/-- Toggling changes one cell. -/
theorem mem_toggle_iff
    (canvas : Canvas) (cell other : Cell) :
    other ∈ (canvas.toggle cell).display ↔
      (other ∈ canvas.display ∧ other ≠ cell) ∨
        (other = cell ∧ cell ∉ canvas.display) := by
  unfold toggle
  split
  · rename_i lit
    have isLit : cell ∈ canvas.display := lit
    simp [isLit]
  · rename_i dark
    have isDark : cell ∉ canvas.display := dark
    simp only [SortedSet.mem_insert, isDark, not_false_eq_true, and_true]
    constructor
    · intro member
      rcases member with same | older
      · exact .inr same
      · refine .inl ⟨older, ?_⟩
        intro same
        exact isDark (same ▸ older)
    · intro member
      rcases member with ⟨older, _⟩ | same
      · exact .inr older
      · exact .inl same

private theorem turnedOff_toggle_iff
    (canvas : Canvas) (cell : Cell) :
    (canvas.toggle cell).turnedOff = true ↔
      canvas.turnedOff = true ∨ cell ∈ canvas.display := by
  unfold toggle
  split
  · rename_i lit
    have isLit : cell ∈ canvas.display := lit
    simp [isLit]
  · rename_i dark
    have isDark : cell ∉ canvas.display := dark
    simp [isDark]

private theorem mem_foldl_toggle_iff
    {cells : List Cell} (distinct : cells.Nodup)
    (canvas : Canvas) (other : Cell) :
    other ∈ (cells.foldl toggle canvas).display ↔
      (other ∈ canvas.display ∧ other ∉ cells) ∨
        (other ∈ cells ∧ other ∉ canvas.display) := by
  induction cells generalizing canvas with
  | nil => simp
  | cons cell rest inductionHypothesis =>
      obtain ⟨fresh, restDistinct⟩ := List.nodup_cons.mp distinct
      rw [List.foldl_cons, inductionHypothesis restDistinct, mem_toggle_iff,
        List.mem_cons]
      by_cases same : other = cell
      · subst same
        simp [fresh]
      · simp [same]

private theorem turnedOff_foldl_toggle_iff
    {cells : List Cell} (distinct : cells.Nodup) (canvas : Canvas) :
    (cells.foldl toggle canvas).turnedOff = true ↔
      canvas.turnedOff = true ∨
        ∃ cell, cell ∈ canvas.display ∧ cell ∈ cells := by
  induction cells generalizing canvas with
  | nil => simp
  | cons cell rest inductionHypothesis =>
      obtain ⟨fresh, restDistinct⟩ := List.nodup_cons.mp distinct
      rw [List.foldl_cons, inductionHypothesis restDistinct,
        turnedOff_toggle_iff, or_assoc]
      refine or_congr_right ?_
      constructor
      · intro met
        rcases met with lit | ⟨other, member, inRest⟩
        · exact ⟨cell, lit, List.mem_cons_self⟩
        · rcases (mem_toggle_iff canvas cell other).mp member with
            ⟨older, _⟩ | ⟨same, _⟩
          · exact ⟨other, older, List.mem_cons_of_mem _ inRest⟩
          · exact absurd (same ▸ inRest) fresh
      · intro met
        obtain ⟨other, older, inCells⟩ := met
        rcases List.mem_cons.mp inCells with same | inRest
        · exact .inl (same ▸ older)
        · refine .inr ⟨other, (mem_toggle_iff canvas cell other).mpr
            (.inl ⟨older, ?_⟩), inRest⟩
          intro same
          exact fresh (same ▸ inRest)

/-! ## Rows and columns as lists of cells -/

theorem covers_eq_testBit (row : UInt8) (column : Nat) :
    Sprite.covers row column = row.toNat.testBit (7 - column) := by
  rw [Sprite.covers, Nat.shiftRight_eq_div_pow,
    Nat.testBit_eq_decide_div_mod_eq]

/-- Painting columns from the left toggles the cells of the set bits.  The
columns increase, so that all of them lie beyond the edge once one does. -/
theorem paintColumns_eq_foldl
    (row : UInt8) (x y : Int) {columns : List Nat}
    (increasing : columns.Pairwise (· < ·)) (canvas : Canvas) :
    canvas.paintColumns row x y columns =
      ((columns.filter fun column =>
        Sprite.covers row column && decide (x + column < screenWidth)).map
          fun (column : Nat) => (⟨x + column, y⟩ : Cell)).foldl
            toggle canvas := by
  induction columns generalizing canvas with
  | nil => rfl
  | cons column rest inductionHypothesis =>
      obtain ⟨belowRest, restIncreasing⟩ := List.pairwise_cons.mp increasing
      by_cases beyond : 64 ≤ x + column
      · have allBeyond : ∀ later ∈ column :: rest,
            ¬ (x + (later : Int) < screenWidth) := by
          intro later member
          unfold screenWidth
          rcases List.mem_cons.mp member with rfl | inRest
          · omega
          · have above := belowRest later inRest
            omega
        have noneLeft : (column :: rest).filter (fun later =>
            Sprite.covers row later && decide (x + later < screenWidth)) =
              [] := by
          apply List.filter_eq_nil_iff.mpr
          intro later member
          simp [allBeyond later member]
        rw [noneLeft, paintColumns, if_pos beyond]
        rfl
      · have visible : x + (column : Int) < screenWidth := by
          unfold screenWidth
          omega
        rw [paintColumns, if_neg beyond, ← covers_eq_testBit]
        by_cases covered : Sprite.covers row column = true
        · rw [if_pos covered, inductionHypothesis restIncreasing,
            List.filter_cons_of_pos (by simp [covered, visible]),
            List.map_cons, List.foldl_cons]
        · rw [if_neg covered, inductionHypothesis restIncreasing,
            List.filter_cons_of_neg (by simp [covered])]

private theorem paintRows_eq_foldl
    (x y : Int) (sprite : Sprite) (canvas : Canvas) :
    canvas.paintRows x y sprite =
      (sprite.cells x y).foldl toggle canvas := by
  induction sprite generalizing y canvas with
  | nil => rfl
  | cons row rest inductionHypothesis =>
      rw [paintRows, inductionHypothesis, Sprite.cells, List.foldl_append,
        paintColumns_eq_foldl row x y List.pairwise_lt_range]
      rfl

end Canvas

/-- No cell of a sprite is listed twice. -/
theorem Sprite.nodup_cells (x y : Int) (sprite : Sprite) :
    (sprite.cells x y).Nodup := by
  induction sprite generalizing y with
  | nil => exact List.nodup_nil
  | cons row rest inductionHypothesis =>
      have rowDistinct : (rowCells x y row).Nodup := by
        apply List.Nodup.map
        · intro first second same
          have sameColumn := congrArg Cell.x same
          simp only at sameColumn
          omega
        · exact List.nodup_range.filter _
      apply List.nodup_append.mpr
      refine ⟨rowDistinct, inductionHypothesis (y + 1), ?_⟩
      intro upper inRow lower inRest same
      obtain ⟨_, _, _, _, rfl⟩ := mem_rowCells_iff.mp inRow
      have bounds := bounds_of_mem_cells inRest
      rw [← same] at bounds
      simp only at bounds
      omega

/-- A sprite whose top left cell lies at `(x, y)` marks a cell: the bit of the
cell is set in its row, and its column lies to the left of the right edge. -/
def Sprite.Marks (x y : Int) (sprite : Sprite) (cell : Cell) : Prop :=
  ∃ row column : Nat, row < sprite.length ∧ column < 8 ∧
    (sprite.getD row 0).toNat.testBit (7 - column) = true ∧
    x + column < 64 ∧ cell = ⟨x + column, y + row⟩

/-- The cells of a sprite are those whose bit is set, cut off at the right edge.
-/
theorem Sprite.mem_cells_iff_marks
    {x y : Int} {sprite : Sprite} {cell : Cell} :
    cell ∈ sprite.cells x y ↔ sprite.Marks x y cell := by
  rw [mem_cells_iff]
  unfold screenWidth
  constructor
  · intro covered
    obtain ⟨row, byte, column, isByte, bound, isSet, visible, isCell⟩ := covered
    have below := (List.getElem?_eq_some_iff.mp isByte).1
    refine ⟨row, column, below, bound, ?_, visible, isCell⟩
    rw [← Canvas.covers_eq_testBit, List.getD_eq_getElem?_getD, isByte]
    exact isSet
  · intro marked
    obtain ⟨row, column, below, bound, isSet, visible, isCell⟩ := marked
    refine ⟨row, sprite.getD row 0, column, ?_, bound, ?_, visible, isCell⟩
    · rw [List.getD_eq_getElem?_getD, List.getElem?_eq_getElem below]
      rfl
    · rwa [Canvas.covers_eq_testBit]

instance (x y : Int) (sprite : Sprite) (cell : Cell) :
    Decidable (sprite.Marks x y cell) :=
  decidable_of_iff (cell ∈ sprite.cells x y) Sprite.mem_cells_iff_marks

/-- Painting a sprite cell by cell draws it, and a lit cell is turned off
exactly if the sprite meets the display. -/
theorem Canvas.paintRows_eq_draw
    (display : Display) (x y : Int) (sprite : Sprite) :
    paintRows x y sprite { display := display } =
      { display := display.draw x y sprite
        turnedOff := display.hits x y sprite } := by
  have distinct := sprite.nodup_cells x y
  rw [paintRows_eq_foldl, Canvas.mk.injEq]
  constructor
  · apply SortedSet.ext_mem
    intro cell
    rw [mem_foldl_toggle_iff distinct, Display.mem_draw_iff]
  · rw [Bool.eq_iff_iff, turnedOff_foldl_toggle_iff distinct,
      Display.hits_iff]
    simp

end Chip8
