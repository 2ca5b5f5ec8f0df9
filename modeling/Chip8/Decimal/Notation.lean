import Chip8.Decimal.Shortest
import Chip8.Text.Numeral

/-!
# Texts of floating-point numbers

A number is written with its shortest digits, with a fixed number of decimal
places, or in scientific notation with a fixed number of places.  All three
agree on the texts of infinities and of what is not a number.
-/

namespace Chip8.Decimal

/-- The text of a number whose finite positive part is written by `write`. -/
def signed (write : Binary → List Char) (value : Float) : String :=
  let mark (negative : Bool) : List Char := if negative then ['-'] else []
  match Reading.of value with
  | .notANumber => "nan"
  | .infinite negative => .ofList (mark negative ++ "inf".toList)
  | .finite negative binary => .ofList (mark negative ++ write binary)

/-- An exponent has a sign and at least two digits. -/
def exponentText (exponent : Int) : List Char :=
  let digits := Numeral.zeroFilled 2 [] (Numeral.decimal exponent.natAbs)
  'e' :: (if exponent < 0 then '-' else '+') :: digits

/-- Digits with a point behind the first one and an exponent. -/
def scientificLayout (digits : List Char) (exponent : Int) : List Char :=
  match digits with
  | [] => []
  | [digit] => digit :: exponentText exponent
  | digit :: rest => digit :: '.' :: rest ++ exponentText exponent

/-- Digits of a number below `10 ^ magnitude`, written without exponent. -/
def positionalLayout (digits : List Char) (magnitude : Int) : List Char :=
  if magnitude ≤ 0 then
    '0' :: '.' :: List.replicate (-magnitude).toNat '0' ++ digits
  else
    let whole := digits.take magnitude.toNat
    let zeros := List.replicate (magnitude.toNat - digits.length) '0'
    let places := digits.drop magnitude.toNat
    whole ++ zeros ++ '.' :: (if places.isEmpty then ['0'] else places)

/-- The shortest text that is read back as the number.  Numbers from `0.0001`
up to `10 ^ 16` are written without exponent. -/
def shortestText (value : Float) : String :=
  signed (fun binary =>
    if binary.mantissa = 0 then "0.0".toList
    else
      let decimal := shortest binary
      let written := Numeral.decimal decimal.digits
      let magnitude := decimal.power + written.length
      let digits := written.reverse.dropWhile (· = '0') |>.reverse
      if -4 < magnitude ∧ magnitude ≤ 16 then positionalLayout digits magnitude
      else scientificLayout digits (magnitude - 1))
    value

/-- The text with a fixed number of decimal places. -/
def fixedText (places : Nat) (value : Float) : String :=
  signed (fun binary =>
    let rounded := roundQuotient (binary.numerator * Nat.pow 10 places) binary.denominator
    let digits := Numeral.zeroFilled (places + 1) [] (Numeral.decimal rounded)
    let whole := digits.take (digits.length - places)
    let fraction := digits.drop (digits.length - places)
    if places = 0 then whole else whole ++ '.' :: fraction)
    value

/-- The text in scientific notation with a fixed number of places. -/
def scientificText (places : Nat) (value : Float) : String :=
  signed (fun binary =>
    if binary.mantissa = 0 then scientificLayout (List.replicate (places + 1) '0') 0
    else
      let magnitude := binary.magnitude
      let (numerator, denominator) :=
        scaleByTen binary.numerator binary.denominator (places + 1 - magnitude)
      let rounded := roundQuotient numerator denominator
      if rounded = Nat.pow 10 (places + 1) then
        scientificLayout (Numeral.decimal (Nat.pow 10 places)) magnitude
      else scientificLayout (Numeral.decimal rounded) (magnitude - 1))
    value

end Chip8.Decimal
