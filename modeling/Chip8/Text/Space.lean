/-!
# Characters that count as space
-/

namespace Chip8.Text

/-- The ranges of the characters that separate words or lines. -/
def spaceRanges : List (Nat × Nat) :=
  [(0x9, 0xD), (0x1C, 0x20), (0x85, 0x85), (0xA0, 0xA0), (0x1680, 0x1680), (0x2000, 0x200A),
    (0x2028, 0x2029), (0x202F, 0x202F), (0x205F, 0x205F), (0x3000, 0x3000)]

/-- Whether a character counts as space. -/
def isSpace (char : Char) : Bool :=
  spaceRanges.any fun range => range.1 ≤ char.toNat && char.toNat ≤ range.2

def trim (chars : List Char) : List Char :=
  ((chars.dropWhile isSpace).reverse.dropWhile isSpace).reverse

end Chip8.Text
