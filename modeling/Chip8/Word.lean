/-!
# Instruction words

An instruction is a word of sixteen bits.  Its four hexadecimal digits are
read as a group, two register numbers and a small constant; the low digits
together also form a byte and an address.
-/

namespace Chip8

/-- There are sixteen digits, so that each of them can be written down. -/
instance digitsNonempty : @NeZero Nat Zero.ofOfNat0 16 := ⟨by decide⟩

/-- A word of sixteen bits. -/
structure Word where
  toNat : Nat
  /-- The value has at most sixteen bits. -/
  isLt : toNat < 65536
  deriving DecidableEq, Repr

namespace Word

/-- The word of the low sixteen bits of an integer. -/
def ofInt (value : Int) : Word where
  toNat := (value % 65536).toNat
  isLt := by omega

/-- The word of two bytes, the high byte first. -/
def ofBytes (high low : UInt8) : Word where
  toNat := high.toNat * 256 + low.toNat
  isLt := by
    have highBound := high.toNat_lt
    have lowBound := low.toNat_lt
    omega

/-- The first digit, which selects the group of the instruction. -/
def group (word : Word) : Fin 16 :=
  ⟨word.toNat / 4096, by have := word.isLt; omega⟩

/-- The second digit, a register number. -/
def x (word : Word) : Fin 16 := ⟨word.toNat / 256 % 16, by omega⟩

/-- The third digit, a register number. -/
def y (word : Word) : Fin 16 := ⟨word.toNat / 16 % 16, by omega⟩

/-- The fourth digit, a small constant. -/
def n (word : Word) : Fin 16 := ⟨word.toNat % 16, by omega⟩

/-- The last two digits as a number below 256. -/
def nn (word : Word) : Nat := word.toNat % 256

/-- The last three digits as an address. -/
def nnn (word : Word) : Nat := word.toNat % 4096

def byte (word : Word) : UInt8 := UInt8.ofNat word.nn

end Word

end Chip8
