import Chip8.Display
import Chip8.Proofs.SortedSet

/-!
# The cells of a sprite

A sprite covers the cells of its set bits as far as they lie to the left of
the right edge.  Drawing toggles exactly these cells.
-/

namespace Chip8

instance : Std.LawfulEqOrd Cell where
  eq_of_compare := by
    intro first second same
    cases first with
    | mk firstX firstY =>
        cases second with
        | mk secondX secondY =>
            change compareLex (compareOn Cell.y) (compareOn Cell.x)
              ⟨firstX, firstY⟩ ⟨secondX, secondY⟩ = .eq at same
            simp only [compareLex, compareOn, Ordering.then_eq_eq,
              Std.LawfulEqOrd.compare_eq_iff_eq] at same
            obtain ⟨rfl, rfl⟩ := same
            rfl

namespace Cell

/-- The cell lies on a screen of 64 columns and 32 rows. -/
def OnScreen (cell : Cell) : Prop :=
  0 ≤ cell.x ∧ cell.x < 64 ∧ 0 ≤ cell.y ∧ cell.y < 32

instance (cell : Cell) : Decidable cell.OnScreen :=
  inferInstanceAs (Decidable (_ ∧ _))

theorem isVisible_iff {cell : Cell} :
    cell.isVisible = true ↔ cell.OnScreen := by
  simp only [isVisible, OnScreen, Bool.and_eq_true, decide_eq_true_eq]
  unfold screenWidth screenHeight
  omega

end Cell

namespace Sprite

theorem mem_rowCells_iff
    {x y : Int} {row : UInt8} {cell : Cell} :
    cell ∈ rowCells x y row ↔
      ∃ column : Nat, column < 8 ∧ covers row column = true ∧
        x + column < screenWidth ∧ cell = ⟨x + column, y⟩ := by
  simp only [rowCells, List.mem_map, List.mem_filter, List.mem_range,
    Bool.and_eq_true, decide_eq_true_eq]
  constructor
  · rintro ⟨column, ⟨bound, covered, visible⟩, rfl⟩
    exact ⟨column, bound, covered, visible, rfl⟩
  · rintro ⟨column, bound, covered, visible, rfl⟩
    exact ⟨column, ⟨bound, covered, visible⟩, rfl⟩

/-- A sprite covers the cells of its set bits that lie to the left of the
right edge. -/
theorem mem_cells_iff
    {x y : Int} {sprite : Sprite} {cell : Cell} :
    cell ∈ cells x y sprite ↔
      ∃ (offset : Nat) (row : UInt8) (column : Nat),
        sprite[offset]? = some row ∧ column < 8 ∧ covers row column = true ∧
          x + column < screenWidth ∧ cell = ⟨x + column, y + offset⟩ := by
  induction sprite generalizing y with
  | nil => simp [cells]
  | cons first rest inductionHypothesis =>
      rw [cells, List.mem_append, mem_rowCells_iff, inductionHypothesis]
      constructor
      · rintro (⟨column, bound, covered, visible, rfl⟩ |
          ⟨offset, row, column, isRow, bound, covered, visible, rfl⟩)
        · exact ⟨0, first, column, rfl, bound, covered, visible, by simp⟩
        · refine ⟨offset + 1, row, column, by simpa using isRow, bound,
            covered, visible, ?_⟩
          rw [Cell.mk.injEq]
          omega
      · rintro ⟨offset, row, column, isRow, bound, covered, visible, rfl⟩
        cases offset with
        | zero =>
            simp only [List.getElem?_cons_zero, Option.some.injEq] at isRow
            subst isRow
            exact .inl ⟨column, bound, covered, visible, by simp⟩
        | succ offset =>
            refine .inr ⟨offset, row, column, by simpa using isRow, bound,
              covered, visible, ?_⟩
            rw [Cell.mk.injEq]
            omega

/-- The cells of a sprite lie at or to the right of its left edge, on the
screen as far as columns go, and in its rows. -/
theorem bounds_of_mem_cells
    {x y : Int} {sprite : Sprite} {cell : Cell}
    (covered : cell ∈ cells x y sprite) :
    x ≤ cell.x ∧ cell.x < screenWidth ∧
      y ≤ cell.y ∧ cell.y < y + sprite.length := by
  obtain ⟨offset, row, column, isRow, _, _, visible, rfl⟩ :=
    mem_cells_iff.mp covered
  have offsetBound := (List.getElem?_eq_some_iff.mp isRow).1
  refine ⟨?_, visible, ?_, ?_⟩
  · exact Int.le_add_of_nonneg_right (Int.natCast_nonneg column)
  · exact Int.le_add_of_nonneg_right (Int.natCast_nonneg offset)
  · simpa using offsetBound

end Sprite

namespace Display

theorem mem_draw_iff
    {display : Display} {x y : Int} {sprite : Sprite} {cell : Cell} :
    cell ∈ display.draw x y sprite ↔
      (cell ∈ display ∧ cell ∉ sprite.cells x y) ∨
        (cell ∈ sprite.cells x y ∧ cell ∉ display) := by
  rw [draw, SortedSet.mem_symmDiff, Sprite.footprint, SortedSet.mem_ofList]

theorem hits_iff
    {display : Display} {x y : Int} {sprite : Sprite} :
    display.hits x y sprite = true ↔
      ∃ cell, cell ∈ display ∧ cell ∈ sprite.cells x y := by
  rw [hits, SortedSet.meets_iff]
  simp only [Sprite.footprint, SortedSet.mem_ofList]

end Display

end Chip8
