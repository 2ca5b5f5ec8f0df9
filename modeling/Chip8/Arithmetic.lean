/-!
# Arithmetic on two registers

Each operation takes the bytes of two registers to a result and, for some
operations, a flag: the carry of a sum, the absence of a borrow in a
difference, or the bit that a shift pushes out.
-/

namespace Chip8

inductive Arithmetic where
  | copy
  | or
  | and
  | xor
  | add
  | subtract
  | shiftRight
  | subtractFrom
  | shiftLeft
  deriving DecidableEq, Repr

namespace Arithmetic

/-- The operation with the given number, if there is one. -/
def ofNat? : Nat → Option Arithmetic
  | 0x0 => some copy
  | 0x1 => some or
  | 0x2 => some and
  | 0x3 => some xor
  | 0x4 => some add
  | 0x5 => some subtract
  | 0x6 => some shiftRight
  | 0x7 => some subtractFrom
  | 0xE => some shiftLeft
  | _ => none

def flagByte (flag : Bool) : UInt8 := if flag then 1 else 0

/-- The result of an operation on the first and the second register. -/
def result (operation : Arithmetic) (first second : UInt8) : UInt8 :=
  match operation with
  | copy => second
  | or => first ||| second
  | and => first &&& second
  | xor => first ^^^ second
  | add => first + second
  | subtract => first - second
  | shiftRight => second >>> 1
  | subtractFrom => second - first
  | shiftLeft => second <<< 1

/-- The flag of an operation, for those that set it. -/
def flag? (operation : Arithmetic) (first second : UInt8) : Option Bool :=
  match operation with
  | copy | or | and | xor => none
  | add => some (255 < first.toNat + second.toNat)
  | subtract => some (second ≤ first)
  | shiftRight => some (second.toNat % 2 = 1)
  | subtractFrom => some (first ≤ second)
  | shiftLeft => some (128 ≤ second.toNat)

end Arithmetic

end Chip8
