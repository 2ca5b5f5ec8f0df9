import Chip8.Picture

/-!
# Drawing surfaces

A surface is filled with a colour, and rectangles are painted onto it one
after the other.  A point shows the colour of the latest rectangle that covers
it, or that of the filling if there is none.
-/

namespace Chip8

structure Rectangle where
  left : Int
  top : Int
  width : Int
  height : Int
  color : Color
  deriving DecidableEq, Repr

namespace Rectangle

def coversColumn (rectangle : Rectangle) (column : Nat) : Bool :=
  rectangle.left ≤ column && column < rectangle.left + rectangle.width

def coversRow (rectangle : Rectangle) (row : Nat) : Bool :=
  rectangle.top ≤ row && row < rectangle.top + rectangle.height

end Rectangle

/-- A surface with what has been painted since it was filled. -/
structure Surface where
  width : Nat
  height : Nat
  filling : Color
  /-- The painted rectangles, the latest first. -/
  rectangles : List Rectangle := []
  deriving DecidableEq, Repr

namespace Surface

def fill (surface : Surface) (color : Color) : Surface :=
  { surface with filling := color, rectangles := [] }

def paint (surface : Surface) (rectangle : Rectangle) : Surface :=
  { surface with rectangles := rectangle :: surface.rectangles }

def row (surface : Surface) (row : Nat) : List Color :=
  let covering := surface.rectangles.filter (·.coversRow row)
  (List.range surface.width).map fun column =>
    ((covering.find? (·.coversColumn column)).map Rectangle.color).getD surface.filling

def picture (surface : Surface) : Picture := (List.range surface.height).map surface.row

end Surface

end Chip8
