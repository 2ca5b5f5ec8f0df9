import Chip8.Value

/-!
# Colours and palettes

A palette gives the colours of lit and of dark cells.  There are five palettes
with a name.
-/

namespace Chip8

structure Color where
  red : UInt8
  green : UInt8
  blue : UInt8
  deriving DecidableEq, Repr

/-- The colours of lit and of dark cells. -/
structure Palette where
  lit : Color
  dark : Color
  deriving DecidableEq, Repr

namespace Palette

/-- The usual palette. -/
def classic : Palette := ⟨⟨0, 255, 0⟩, ⟨0, 0, 0⟩⟩

def named : List (String × Palette) :=
  [("classic", classic),
    ("amber", ⟨⟨255, 176, 0⟩, ⟨0, 0, 0⟩⟩),
    ("white", ⟨⟨255, 255, 255⟩, ⟨0, 0, 0⟩⟩),
    ("blue", ⟨⟨0, 255, 255⟩, ⟨0, 0, 64⟩⟩),
    ("retro", ⟨⟨255, 255, 0⟩, ⟨64, 0, 64⟩⟩)]

def names : List String := named.map Prod.fst

def find? (name : String) : Option Palette := named.lookup name

def unknownMessage (name : String) : String :=
  "Unknown color scheme '" ++ name ++ "'. Available: " ++
    (Value.list (names.map .text)).literal

end Palette

end Chip8
