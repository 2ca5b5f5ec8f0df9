/-!
# Reading decimal numbers

A decimal number has digits, an optional fraction and an optional exponent.
It is read as the nearest floating-point number.
-/

namespace Chip8.Decimal

def digitsValue (digits : List Char) : Nat :=
  digits.foldl (fun value digit => value * 10 + (digit.toNat - '0'.toNat)) 0

/-- The floating-point number nearest to `mantissa * 10 ^ exponent`.  The
extreme exponents are decided without computing the power. -/
def nearest (mantissa : Nat) (exponent : Int) : Float :=
  let magnitude : Int := (Nat.toDigits 10 mantissa).length + exponent
  if mantissa = 0 ∨ magnitude < -400 then 0
  else if 400 < magnitude then 1 / 0
  else Float.ofScientific mantissa (exponent < 0) exponent.natAbs

def readInteger? (chars : List Char) : Option Int :=
  let unsigned (digits : List Char) : Option Nat :=
    if digits.isEmpty || !digits.all Char.isDigit then none else some (digitsValue digits)
  match chars with
  | '-' :: digits => (unsigned digits).map fun value => -(value : Int)
  | '+' :: digits => (unsigned digits).map fun value => (value : Int)
  | digits => (unsigned digits).map fun value => (value : Int)

/-- An unsigned number: digits with an optional point among them and an
optional exponent. -/
def readUnsigned? (chars : List Char) : Option Float :=
  let whole := chars.takeWhile Char.isDigit
  let afterWhole := chars.dropWhile Char.isDigit
  let (fraction, afterFraction) := match afterWhole with
    | '.' :: rest => (rest.takeWhile Char.isDigit, rest.dropWhile Char.isDigit)
    | rest => ([], rest)
  let digits := whole ++ fraction
  let exponent? := match afterFraction with
    | [] => some 0
    | mark :: rest => if mark = 'e' || mark = 'E' then readInteger? rest else none
  if digits.isEmpty then none
  else exponent?.map fun exponent =>
    nearest (digitsValue digits) (exponent - fraction.length)

/-- A number with an optional sign; `inf` and `nan` are numbers too. -/
def read? (text : String) : Option Float :=
  let unsigned (chars : List Char) : Option Float :=
    if chars = "inf".toList then some (1 / 0)
    else if chars = "nan".toList then some (0 / 0)
    else readUnsigned? chars
  match text.toList with
  | '-' :: rest => (unsigned rest).map Float.neg
  | '+' :: rest => unsigned rest
  | chars => unsigned chars

end Chip8.Decimal
