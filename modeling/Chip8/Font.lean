/-!
# The font

The machine comes with a glyph for each hexadecimal digit.  A glyph is a sprite
of five rows, and the sixteen glyphs lie one behind the other in memory.
-/

namespace Chip8.Font

def glyphHeight : Nat := 5

/-- The address of the first glyph. -/
def start : Nat := 0x050

/-- The rows of the glyphs of the sixteen digits. -/
def glyphs : List UInt8 :=
  [0xF0, 0x90, 0x90, 0x90, 0xF0,
    0x20, 0x60, 0x20, 0x20, 0x70,
    0xF0, 0x10, 0xF0, 0x80, 0xF0,
    0xF0, 0x10, 0xF0, 0x10, 0xF0,
    0x90, 0x90, 0xF0, 0x10, 0x10,
    0xF0, 0x80, 0xF0, 0x10, 0xF0,
    0xF0, 0x80, 0xF0, 0x90, 0xF0,
    0xF0, 0x10, 0x20, 0x40, 0x40,
    0xF0, 0x90, 0xF0, 0x90, 0xF0,
    0xF0, 0x90, 0xF0, 0x10, 0xF0,
    0xF0, 0x90, 0xF0, 0x90, 0x90,
    0xE0, 0x90, 0xE0, 0x90, 0xE0,
    0xF0, 0x80, 0x80, 0x80, 0xF0,
    0xE0, 0x90, 0x90, 0x90, 0xE0,
    0xF0, 0x80, 0xF0, 0x80, 0xF0,
    0xF0, 0x80, 0xF0, 0x80, 0x80]

def address (digit : Nat) : Nat := start + digit * glyphHeight

def glyph (digit : Nat) : List UInt8 :=
  (glyphs.drop (digit * glyphHeight)).take glyphHeight

end Chip8.Font
