import Chip8.Display
import Chip8.Failure
import Chip8.Palette

/-!
# Pictures of a screen

A screen is a set of lit cells or a bitmap of some shape.  Its grid has 64
columns and 32 rows of cells that are lit or dark.  A picture paints each cell
of the grid as a square of picture points.
-/

namespace Chip8

/-- What can be painted. -/
inductive Screen where
  /-- A set of lit cells, of which those outside the screen do not show. -/
  | cells (display : Display)
  /-- A bitmap of the given shape with its lit cells. -/
  | bitmap (shape : List Nat) (lit : Display)
  deriving DecidableEq

/-- The cells of a screen, row by row: lit or dark. -/
structure Grid where
  cells : Vector Bool (screenWidth * screenHeight)
  deriving DecidableEq

namespace Grid

def position (cell : Cell) : Nat := cell.y.toNat * screenWidth + cell.x.toNat

/-- The grid of the visible cells of a display. -/
def ofDisplay (display : Display) : Grid where
  cells := display.toList.foldl
    (fun cells cell => if cell.isVisible then cells.setIfInBounds (position cell) true else cells)
    (Vector.replicate _ false)

/-- Whether the cell in a column and a row is lit. -/
def isLit (grid : Grid) (column row : Nat) : Bool :=
  grid.cells.getD (row * screenWidth + column) false

def toCells (grid : Grid) : List Cell :=
  (List.range screenHeight).flatMap fun (row : Nat) =>
    ((List.range screenWidth).filter fun column => grid.isLit column row).map
      fun (column : Nat) => ⟨column, row⟩

end Grid

/-- The rows of a picture, from the top down. -/
abbrev Picture := List (List Color)

namespace Picture

/-- Each point of the picture as a square of points. -/
def enlarge (scale : Nat) (picture : Picture) : Picture :=
  picture.flatMap fun row =>
    List.replicate scale (row.flatMap fun color => List.replicate scale color)

end Picture

/-- The picture of a grid in which each cell is one point. -/
def Grid.picture (grid : Grid) (color : Bool → Color) : Picture :=
  (List.range screenHeight).map fun row =>
    (List.range screenWidth).map fun column => color (grid.isLit column row)

def Palette.color (palette : Palette) (isLit : Bool) : Color :=
  if isLit then palette.lit else palette.dark

/-- Why a picture could not be painted. -/
inductive PaintError where
  /-- A cell is at least one point wide. -/
  | scale (value : Int)
  /-- A bitmap does not have the shape of the screen. -/
  | shape (shape : List Nat)
  /-- A part of a colour is no byte. -/
  | color (value : Int)
  /-- There is no palette with this name. -/
  | palette (name : String)
  deriving DecidableEq, Repr

namespace PaintError

/-- A shape is written in round brackets; a comma follows a single number. -/
def shapeText : List Nat → String
  | [size] => "(" ++ Numeral.text size ++ ",)"
  | sizes => "(" ++ ", ".intercalate (sizes.map fun (size : Nat) => Numeral.text size) ++ ")"

def message : PaintError → String
  | scale value => Numeral.worded value ("scale must be at least 1, got " ++ ·)
  | shape sizes => "Expected display shape (64, 32), got " ++ shapeText sizes
  | color value => (Failure.notAByte value).message
  | palette name => Palette.unknownMessage name

end PaintError

def Screen.grid : Screen → Except PaintError Grid
  | .cells display => .ok (.ofDisplay display)
  | .bitmap shape lit =>
      if shape = [screenWidth, screenHeight] then .ok (.ofDisplay lit)
      else .error (.shape shape)

/-- A colour as it is asked for: its parts may be no bytes. -/
structure Tint where
  red : Int
  green : Int
  blue : Int
  deriving DecidableEq, Repr

namespace Tint

def byte (part : Int) : Except PaintError UInt8 :=
  if 0 ≤ part ∧ part ≤ 255 then .ok (UInt8.ofNat part.toNat) else .error (.color part)

def toColor (tint : Tint) : Except PaintError Color := do
  return ⟨← byte tint.red, ← byte tint.green, ← byte tint.blue⟩

end Tint

def Color.tint (color : Color) : Tint :=
  ⟨color.red.toNat, color.green.toNat, color.blue.toNat⟩

/-- Paint a screen.  The scale is looked at first, then the shape, then the
colours. -/
def Screen.paint (screen : Screen) (scale : Int) (lit dark : Tint) :
    Except PaintError Picture := do
  if scale < 1 then .error (.scale scale)
  else
    let grid ← screen.grid
    let palette : Palette := ⟨← lit.toColor, ← dark.toColor⟩
    return (grid.picture palette.color).enlarge scale.toNat

def Palette.get (name : String) : Except PaintError Palette :=
  match Palette.find? name with
  | some palette => .ok palette
  | none => .error (.palette name)

/-- Paint a screen in the colours of a palette. -/
def Screen.paintWith (screen : Screen) (scale : Int) (scheme : String) :
    Except PaintError Picture := do
  let palette ← Palette.get scheme
  screen.paint scale palette.lit.tint palette.dark.tint

end Chip8
