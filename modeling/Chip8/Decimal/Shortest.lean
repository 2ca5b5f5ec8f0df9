import Chip8.Decimal.Binary

/-!
# The fewest digits that read back

Every decimal number inside a certain interval around a floating-point number
is read back as that number.  Its shortest digits are the first grid of
decimal numbers, from coarse to fine, that has a point in the interval.
-/

namespace Chip8.Decimal

/-- Decimal digits with a power of ten: `digits * 10 ^ power`. -/
structure Digits where
  digits : Nat
  power : Int
  deriving DecidableEq, Repr

/-- Whether a decimal is read back as the given number.  The lower half of the
interval is shorter at a power of two, and its ends belong to numbers with an
even mantissa. -/
def readsBack (binary : Binary) (decimal : Digits) : Bool :=
  let unit : Binary := ⟨1, binary.exponent - 2⟩
  let center := 4 * binary.mantissa
  let low :=
    if binary.mantissa = Nat.pow 2 52 ∧ -1074 < binary.exponent then center - 1 else center - 2
  let high := center + 2
  let (scaled, denominator) :=
    scaleByTen (decimal.digits * unit.denominator) unit.numerator decimal.power
  if binary.mantissa % 2 = 0 then
    low * denominator ≤ scaled && scaled ≤ high * denominator
  else
    low * denominator < scaled && scaled < high * denominator

/-- The decimal with the given number of digits that is read back, if there is
one.  Of two such decimals the nearer one is taken, and of two equally near
ones that with an even last digit. -/
def candidate (binary : Binary) (magnitude : Int) (count : Nat) : Option Digits :=
  let power := magnitude - count
  let (numerator, denominator) :=
    scaleByTen binary.numerator binary.denominator (-power)
  let floor := numerator / denominator
  let nearest := roundQuotient numerator denominator
  let other := if nearest = floor then floor + 1 else floor
  [nearest, other].map (⟨·, power⟩) |>.find? (readsBack binary)

/-- The shortest decimal that is read back as a positive number. -/
def shortest (binary : Binary) : Digits :=
  let magnitude := binary.magnitude
  ((List.range 17).findSome? fun count => candidate binary magnitude (count + 1)).getD
    ⟨0, 0⟩

end Chip8.Decimal
