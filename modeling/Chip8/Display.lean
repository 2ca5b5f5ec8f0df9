import Chip8.SortedSet

/-!
# The display

A display is the set of its lit cells.  Cells are ordered row by row, and the
set may hold cells outside the visible part of 64 columns and 32 rows.  A
sprite is a list of bytes, one per row, whose bits are cells; drawing it
toggles the cells that it covers.
-/

namespace Chip8

/-- A cell of the display. -/
structure Cell where
  x : Int
  y : Int
  deriving DecidableEq, Repr, Inhabited

namespace Cell

/-- Cells are ordered by row, then by column. -/
instance : Ord Cell where
  compare := compareLex (compareOn Cell.y) (compareOn Cell.x)

instance : Std.TransOrd Cell :=
  inferInstanceAs (Std.TransCmp (compareLex (compareOn Cell.y) (compareOn Cell.x)))

end Cell

/-- The number of visible columns. -/
def screenWidth : Nat := 64

/-- The number of visible rows. -/
def screenHeight : Nat := 32

/-- The set of lit cells. -/
abbrev Display := SortedSet Cell

/-- Whether a cell lies in the visible part of the display. -/
def Cell.isVisible (cell : Cell) : Bool :=
  0 ≤ cell.x && cell.x < screenWidth && 0 ≤ cell.y && cell.y < screenHeight

/-- The rows of a sprite, from the top down.  The highest bit of a byte is the
leftmost cell of its row. -/
abbrev Sprite := List UInt8

namespace Sprite

/-- Whether the cell in the given column of a sprite row is set. -/
def covers (row : UInt8) (column : Nat) : Bool :=
  row.toNat >>> (7 - column) % 2 = 1

/-- The cells of a sprite row whose leftmost cell is at `(x, y)`.  Columns
beyond the right edge of the screen are dropped. -/
def rowCells (x y : Int) (row : UInt8) : List Cell :=
  ((List.range 8).filter fun column =>
    covers row column && decide (x + column < screenWidth)).map
      fun (column : Nat) => ⟨x + column, y⟩

/-- The cells of a sprite whose top left cell is at `(x, y)`.  Rows below the
lower edge of the screen are kept. -/
def cells (x y : Int) : Sprite → List Cell
  | [] => []
  | row :: rest => rowCells x y row ++ cells x (y + 1) rest

def footprint (x y : Int) (sprite : Sprite) : Display :=
  .ofList (cells x y sprite)

end Sprite

namespace Display

def draw (display : Display) (x y : Int) (sprite : Sprite) : Display :=
  display.symmDiff (sprite.footprint x y)

/-- Whether drawing a sprite turns a lit cell off. -/
def hits (display : Display) (x y : Int) (sprite : Sprite) : Bool :=
  display.meets (sprite.footprint x y)

end Display

end Chip8
