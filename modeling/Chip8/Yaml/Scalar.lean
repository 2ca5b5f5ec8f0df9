import Chip8.Decimal.Read
import Chip8.Text.Integer
import Chip8.Value

/-!
# Plain scalars

A scalar without quotes is null, a truth value, a number or a text, by its
spelling alone.  Integers have binary, octal, decimal, hexadecimal and
sexagesimal spellings with underscores between the digits; numbers with a
point or an exponent are reals.  A decimal integer may have a limited number of
digits only.
-/

namespace Chip8.Yaml

/-- Why a text is not a document. -/
inductive Flaw where
  /-- A character that the format does not allow. -/
  | character
  /-- A token is malformed or stands where it may not stand. -/
  | token
  /-- The tokens do not form a document. -/
  | grammar
  /-- There is more than one document, or an unknown reference. -/
  | composition
  /-- The document does not form a value. -/
  | construction
  | integer (base : Nat)
  /-- A decimal integer with that many digits, which are too many. -/
  | digits (count : Nat)
  /-- A text that begins like a real and has no digits. -/
  | real (text : String)
  /-- A part of the format that is not read here: a tag, an anchor, a block
  scalar, a directive, or one of the rarer line breaks. -/
  | uncovered
  deriving DecidableEq, Repr

/-- What a plain scalar stands for.  Two spellings are reserved. -/
inductive Scalar where
  | plain (value : Value)
  | malformed (flaw : Flaw)
  /-- The key whose value is merged into its table. -/
  | merge
  /-- The key of the default value. -/
  | default

namespace Scalar

/-- The spellings of null. -/
def isNull (chars : List Char) : Bool :=
  ["", "~", "null", "Null", "NULL"].any fun word => word.toList == chars

def bool? (chars : List Char) : Option Bool :=
  if ["yes", "Yes", "YES", "true", "True", "TRUE", "on", "On", "ON"].any fun word =>
      word.toList == chars then
    some true
  else if ["no", "No", "NO", "false", "False", "FALSE", "off", "Off", "OFF"].any fun word =>
      word.toList == chars then
    some false
  else none

/-- The sign of a number and the rest of its spelling. -/
def splitSign : List Char → Bool × List Char
  | '-' :: rest => (true, rest)
  | '+' :: rest => (false, rest)
  | chars => (false, chars)

def withSign (negative : Bool) (value : Nat) : Int :=
  if negative then -(value : Int) else value

def dropUnderscores (chars : List Char) : List Char := chars.filter (· ≠ '_')

/-- Whether a character is an underscore or a digit below the base. -/
def isDigitBelow (base : Nat) (char : Char) : Bool :=
  char = '_' ||
    (char.isDigit && char.toNat - '0'.toNat < base) ||
    (base = 16 && (('a' ≤ char && char ≤ 'f') || ('A' ≤ char && char ≤ 'F')))

def digitValue (char : Char) : Nat :=
  if char.isDigit then char.toNat - '0'.toNat
  else if 'a' ≤ char then char.toNat - 'a'.toNat + 10
  else char.toNat - 'A'.toNat + 10

def digitsValue (base : Nat) (digits : List Char) : Nat :=
  digits.foldl (fun value digit => value * base + digitValue digit) 0

/-- Digits in the given base, at least one character and at least one digit. -/
def basedInteger? (base : Nat) (negative : Bool) (chars : List Char) : Option Scalar :=
  if chars.isEmpty || !chars.all (isDigitBelow base) then none
  else
    let digits := dropUnderscores chars
    some (if digits.isEmpty then .malformed (.integer base)
      else .plain (.int (withSign negative (digitsValue base digits))))

def splitColons : List Char → List (List Char)
  | [] => [[]]
  | char :: rest =>
      match splitColons rest with
      | part :: parts => if char = ':' then [] :: part :: parts else (char :: part) :: parts
      | [] => []

/-- Whether a part is a sexagesimal digit: a number below 60. -/
def isSixtieth : List Char → Bool
  | [digit] => digit.isDigit
  | [high, low] => high.isDigit && high.toNat < '6'.toNat && low.isDigit
  | _ => false

/-- Whether a text begins with a digit and has only digits and underscores. -/
def isDigitRun : List Char → Bool
  | first :: rest => first.isDigit && rest.all (isDigitBelow 10)
  | [] => false

/-- Whether a digit run does not begin with a zero. -/
def isPositiveRun (chars : List Char) : Bool :=
  isDigitRun chars && chars.head? != some '0'

/-- An integer that is read from some decimal digits, unless they are too many. -/
def limited (digits : List Char) (value : Int) : Scalar :=
  if Text.longestInteger < digits.length then .malformed (.digits digits.length)
  else .plain (.int value)

def decimalInteger? (negative : Bool) (chars : List Char) : Option Scalar :=
  match splitColons chars with
  | [digits] =>
      if digits = ['0'] || isPositiveRun digits then
        some (limited (dropUnderscores digits)
          (withSign negative (digitsValue 10 (dropUnderscores digits))))
      else none
  | first :: rest =>
      if isPositiveRun first && rest.all isSixtieth then
        some (limited (dropUnderscores first)
          (withSign negative
            ((first :: rest).foldl
              (fun value part => value * 60 + digitsValue 10 (dropUnderscores part)) 0)))
      else none
  | [] => none

/-- An integer in any of its spellings.  A zero in front means octal. -/
def int? (chars : List Char) : Option Scalar :=
  let (negative, unsigned) := splitSign chars
  match unsigned with
  | '0' :: 'b' :: digits => basedInteger? 2 negative digits
  | '0' :: 'x' :: digits => basedInteger? 16 negative digits
  | '0' :: first :: digits => basedInteger? 8 negative ('0' :: first :: digits)
  | _ => decimalInteger? negative unsigned

/-- The exponent of a number: a mark, a sign that may be optional, digits. -/
def isExponent (signOptional : Bool) : List Char → Bool
  | mark :: rest =>
      let digits := match rest with
        | '-' :: digits => digits
        | '+' :: digits => digits
        | digits => if signOptional then digits else []
      (mark = 'e' || mark = 'E') && !digits.isEmpty && digits.all Char.isDigit
  | [] => false

def signedReal (negative : Bool) (value : Float) : Float := if negative then -value else value

/-- A real in plain spelling, after its underscores are dropped. -/
def realValue (negative : Bool) (chars : List Char) : Scalar :=
  match Decimal.readUnsigned? (dropUnderscores chars) with
  | some value => .plain (.real (signedReal negative value))
  | none => .malformed (.real (.ofList (dropUnderscores chars)))

/-- A sexagesimal real: sixtieths in front of a fraction. -/
def sexagesimalReal (negative : Bool) (parts : List (List Char)) : Scalar :=
  let read (part : List Char) : Float :=
    (Decimal.readUnsigned? (dropUnderscores part)).getD 0
  let add (part : List Char) (sum : Float × Float) : Float × Float :=
    (sum.1 + read part * sum.2, sum.2 * 60)
  .plain (.real (signedReal negative (parts.foldr add (0, 1)).1))

/-- Whether the parts between colons spell a sexagesimal real. -/
def isSexagesimalReal (parts : List (List Char)) : Bool :=
  match parts, parts.getLast? with
  | first :: _ :: _, some last =>
      isDigitRun first && (parts.drop 1).dropLast.all isSixtieth &&
        isSixtieth (last.takeWhile (· ≠ '.')) && last.contains '.' &&
        ((last.dropWhile (· ≠ '.')).drop 1).all (isDigitBelow 10)
  | _, _ => false

def real? (chars : List Char) : Option Scalar :=
  let (negative, unsigned) := splitSign chars
  let isSigned := unsigned.length < chars.length
  let whole := unsigned.takeWhile (isDigitBelow 10)
  let afterWhole := unsigned.dropWhile (isDigitBelow 10)
  if [".inf", ".Inf", ".INF"].any fun word => word.toList == unsigned then
    some (.plain (.real (signedReal negative (1 / 0))))
  else if [".nan", ".NaN", ".NAN"].any fun word => word.toList == chars then
    some (.plain (.real (0 / 0)))
  else
    match afterWhole with
    | '.' :: rest =>
        let fraction := rest.takeWhile (isDigitBelow 10)
        let exponent := rest.dropWhile (isDigitBelow 10)
        if whole.isEmpty then
          if !isSigned && !fraction.isEmpty &&
              (exponent.isEmpty || isExponent false exponent) then
            some (realValue negative unsigned)
          else none
        else if isDigitRun whole && (exponent.isEmpty || isExponent true exponent) then
          some (realValue negative unsigned)
        else none
    | ':' :: _ =>
        if isSexagesimalReal (splitColons unsigned) then
          some (sexagesimalReal negative (splitColons unsigned))
        else none
    | exponent =>
        if isDigitRun whole && isExponent true exponent then
          some (realValue negative unsigned)
        else none

def ofPlain (chars : List Char) : Scalar :=
  if isNull chars then .plain .null
  else if chars = ['=']  then .default
  else if chars = ['<', '<'] then .merge
  else
    match bool? chars with
    | some value => .plain (.bool value)
    | none => ((real? chars).orElse fun _ => int? chars).getD (.plain (.text (.ofList chars)))

end Scalar

end Chip8.Yaml
