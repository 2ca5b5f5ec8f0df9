/-!
# Floating-point numbers as exact fractions

A finite floating-point number is a sign and an exact fraction with a power of
two as its denominator or in its numerator.  Decimal texts are computed from
that fraction in exact arithmetic.
-/

namespace Chip8.Decimal

/-- A finite number without its sign: `mantissa * 2 ^ exponent`. -/
structure Binary where
  /-- The digits of the number, fewer than 54 bits. -/
  mantissa : Nat
  exponent : Int
  deriving DecidableEq, Repr

namespace Binary

def numerator (binary : Binary) : Nat :=
  binary.mantissa * Nat.pow 2 binary.exponent.toNat

def denominator (binary : Binary) : Nat := Nat.pow 2 (-binary.exponent).toNat

end Binary

/-- What a floating-point number stands for. -/
inductive Reading where
  | notANumber
  | infinite (negative : Bool)
  | finite (negative : Bool) (binary : Binary)
  deriving DecidableEq, Repr

/-- What a floating-point number stands for, read off its bits. -/
def Reading.of (value : Float) : Reading :=
  let bits := value.toBits.toNat
  let negative := decide (Nat.pow 2 63 ≤ bits)
  let exponent : Nat := bits / Nat.pow 2 52 % 2048
  let fraction : Nat := bits % Nat.pow 2 52
  if exponent = 2047 then
    if fraction = 0 then .infinite negative else .notANumber
  else if exponent = 0 then .finite negative ⟨fraction, -1074⟩
  else .finite negative ⟨fraction + Nat.pow 2 52, (exponent : Int) - 1075⟩

/-- The quotient rounded to the nearest integer, a half to the even one. -/
def roundQuotient (numerator denominator : Nat) : Nat :=
  let quotient := numerator / denominator
  let rest := 2 * (numerator % denominator)
  if denominator < rest ∨ (rest = denominator ∧ quotient % 2 = 1) then quotient + 1
  else quotient

/-- The fraction `numerator / denominator` times a power of ten, as a
fraction. -/
def scaleByTen (numerator denominator : Nat) (power : Int) : Nat × Nat :=
  (numerator * Nat.pow 10 power.toNat, denominator * Nat.pow 10 (-power).toNat)

/-- Whether a number is below a power of ten. -/
def Binary.belowPower (binary : Binary) (power : Int) : Bool :=
  let (numerator, denominator) :=
    scaleByTen binary.numerator binary.denominator (-power)
  numerator < denominator

/-- The least power of ten above a positive number.  The binary logarithm
gives the power up to a few units. -/
def Binary.magnitude (binary : Binary) : Int :=
  let logarithm : Int := (Nat.log2 binary.mantissa : Int) + binary.exponent
  let guess := logarithm * 30103 / 100000
  let power := fun (offset : Nat) => guess - 1 + offset
  match (List.range 4).find? fun offset => binary.belowPower (power offset) with
  | some offset => power offset
  | none => power 4

end Chip8.Decimal
