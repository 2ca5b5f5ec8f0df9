import Chip8.Text.Digit
import Chip8.Text.Numeral
import Chip8.Text.Space

/-!
# Integers as they are typed

An integer may have space around it, a sign, and digits of any script.  Single
underscores may stand between digits.
-/

namespace Chip8.Text

/-- The values of digits with single underscores between them.  The flag says
whether an underscore may stand next. -/
def digitValues? : List Char → Bool → Option (List Nat)
  | [], afterDigit => if afterDigit then some [] else none
  | '_' :: rest, afterDigit => if afterDigit then digitValues? rest false else none
  | char :: rest, _ =>
      match digit? char, digitValues? rest true with
      | some digit, some digits => some (digit :: digits)
      | _, _ => none

def readUnsigned? (chars : List Char) : Option Nat :=
  match digitValues? chars false with
  | none => none
  | some digits =>
      if longestInteger < digits.length then none
      else some (digits.foldl (fun value digit => value * 10 + digit) 0)

def readInteger? (text : String) : Option Int :=
  match trim text.toList with
  | '-' :: digits => (readUnsigned? digits).map fun value => -(value : Int)
  | '+' :: digits => (readUnsigned? digits).map fun value => (value : Int)
  | digits => (readUnsigned? digits).map fun value => (value : Int)

end Chip8.Text
