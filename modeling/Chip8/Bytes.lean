/-!
# Blocks of bytes

The memory and the registers of a machine are blocks of bytes of a fixed size.
A block is read and written at single addresses or over a range of adjacent
addresses.
-/

namespace Chip8

abbrev Bytes (size : Nat) := Vector UInt8 size

namespace Bytes

variable {size : Nat}

def zeros (size : Nat) : Bytes size := Vector.replicate size 0

/-- The byte at an address; beyond the block there are zeros. -/
def read (bytes : Bytes size) (address : Nat) : UInt8 :=
  bytes.getD address 0

def slice (bytes : Bytes size) (start count : Nat) : List UInt8 :=
  (List.range count).map fun offset => bytes.read (start + offset)

/-- The block with the given bytes stored from `start` on; bytes beyond the
block are dropped. -/
def overwrite (bytes : Bytes size) (start : Nat) : List UInt8 → Bytes size
  | [] => bytes
  | byte :: rest =>
      overwrite (bytes.setIfInBounds start byte) (start + 1) rest

end Bytes

end Chip8
