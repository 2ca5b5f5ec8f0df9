import Chip8.Machine.Basic

/-!
# The layout of the keys

The sixteen keys of the keypad lie on the left of a keyboard, in four rows of
four.
-/

namespace Chip8

abbrev Key := Fin 16

namespace Layout

/-- The characters of the keyboard with the keys that they stand for, row by
row. -/
def keys : List (Char × Key) :=
  [('1', 0x1), ('2', 0x2), ('3', 0x3), ('4', 0xC),
    ('q', 0x4), ('w', 0x5), ('e', 0x6), ('r', 0xD),
    ('a', 0x7), ('s', 0x8), ('d', 0x9), ('f', 0xE),
    ('z', 0xA), ('x', 0x0), ('c', 0xB), ('v', 0xF)]

def find? (char : Char) : Option Key := keys.lookup char

/-- The key of a character in either case.  Only ASCII letters have a lower
case among the characters of the layout. -/
def findAnyCase? (char : Char) : Option Key := find? char.toLower

/-- The code of a key on the keypad of a machine. -/
def code (key : Key) : Int := key.val

end Layout

end Chip8
