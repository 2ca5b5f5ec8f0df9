/-!
# Texts of integers

Messages write addresses in upper-case hexadecimal and counts in decimal.  A
least width counts the sign, and zeros fill the gap between sign and digits.
Hexadecimal texts have any length; an integer with too many decimal digits
cannot be written in decimal.
-/

namespace Chip8

/-- The number of decimal digits that an integer may have to be read or
written. -/
def Text.longestInteger : Nat := 4300

namespace Numeral

def decimal (value : Nat) : List Char := Nat.toDigits 10 value

def hexadecimal (value : Nat) : List Char :=
  (Nat.toDigits 16 value).map Char.toUpper

/-- The sign of a number that is not positive is written only if it is
negative. -/
def sign (value : Int) : List Char := if value < 0 then ['-'] else []

/-- Digits behind a sign, filled with zeros to a least width that counts the
sign. -/
def zeroFilled (width : Nat) (sign digits : List Char) : List Char :=
  sign ++ List.replicate (width - sign.length - digits.length) '0' ++ digits

def hex (width : Nat) (value : Int) : String :=
  .ofList (zeroFilled width (sign value) (hexadecimal value.natAbs))

/-- Plain decimal. -/
def text (value : Int) : String :=
  .ofList (sign value ++ decimal value.natAbs)

/-- The least number that has too many decimal digits. -/
def tooLarge : Nat := Nat.pow 10 Text.longestInteger

def isWritable (value : Int) : Bool := value.natAbs < tooLarge

/-- The complaint about an integer that cannot be written. -/
def unwritableText : String :=
  "Exceeds the limit (" ++ text Text.longestInteger ++ " digits) for integer string conversion; " ++
    "use sys.set_int_max_str_digits() to increase the limit"

/-- A wording around an integer, or the complaint that it cannot be written. -/
def worded (value : Int) (wording : String → String) : String :=
  if isWritable value then wording (text value) else unwritableText

/-- Digits in groups of three from the right, with commas between the groups. -/
def groupDigits (digits : List Char) : List Char :=
  if 3 < digits.length then
    groupDigits (digits.take (digits.length - 3)) ++ ',' :: digits.drop (digits.length - 3)
  else digits
termination_by digits.length

def grouped (value : Int) : String :=
  .ofList (sign value ++ groupDigits (decimal value.natAbs))

end Numeral

end Chip8
