import Chip8.Random.Threefry
import Chip8.Text.Numeral

/-!
# Sources of random bytes

A machine draws its random bytes from a source.  A block source runs the
counter-based random function over blocks of a fixed size and splits its key
once per block.  A replay source repeats a given list of bytes for ever.  Any
other source is a stream of integers, of which the low bytes count.  A machine
may also be built without a working source.
-/

namespace Chip8

/-- Random bytes in blocks.  A new block is started when the current one is
used up, and a fresh source starts its first block with the first byte. -/
structure BlockSource where
  /-- The number of bytes of a block. -/
  size : Nat
  /-- The key from which the next block is split. -/
  key : Threefry.Pair
  /-- The key of the current block. -/
  block : Threefry.Pair
  /-- The number of bytes already taken from the current block. -/
  taken : Nat
  deriving DecidableEq, Repr

namespace BlockSource

def ofSeed (seed : Int) (size : Nat) : BlockSource where
  size := size
  key := .ofSeed seed
  block := .ofSeed seed
  taken := size

def refill (source : BlockSource) : BlockSource :=
  { source with
    key := source.key.next
    block := source.key.child
    taken := 0 }

/-- The byte at hand and the source after it is taken. -/
def take (source : BlockSource) : UInt8 × BlockSource :=
  (source.block.byteAt source.taken, { source with taken := source.taken + 1 })

def next (source : BlockSource) : UInt8 × BlockSource :=
  if source.size ≤ source.taken then source.refill.take else source.take

end BlockSource

/-- A list of bytes that is repeated for ever. -/
structure ReplaySource where
  /-- The bytes, of which there is at least one. -/
  values : List UInt8
  /-- The position of the next byte in the list. -/
  position : Nat
  deriving DecidableEq, Repr

namespace ReplaySource

def next (source : ReplaySource) : UInt8 × ReplaySource :=
  (source.values.getD source.position 0,
    { source with position := (source.position + 1) % source.values.length })

end ReplaySource

/-- Where a machine takes its random bytes from. -/
inductive RandomSource where
  | blocks (source : BlockSource)
  | replay (source : ReplaySource)
  /-- The integers of a stream, from a position on. -/
  | stream (values : Nat → Int) (position : Nat)
  /-- No source is there: asking for a byte fails. -/
  | absent

namespace RandomSource

/-- Why a source could not be built. -/
inductive BuildError where
  /-- A block holds at least one byte. -/
  | blockSize (size : Int)
  /-- A seed has to fit in 64 bits. -/
  | seedRange (seed : Int)
  | noValues
  | notBytes
  deriving DecidableEq, Repr

namespace BuildError

def message : BuildError → String
  | blockSize size => Numeral.worded size ("block_size must be positive, got " ++ ·)
  | seedRange seed => Numeral.worded seed ("seed does not fit in 64 bits, got " ++ ·)
  | noValues => "SequenceRandomSource needs at least one value"
  | notBytes => "SequenceRandomSource values must be bytes (0-255)"

end BuildError

/-- Whether an integer fits in 64 bits with a sign. -/
def fitsInt64 (value : Int) : Bool :=
  -9223372036854775808 ≤ value && value ≤ 9223372036854775807

def seeded (seed : Int) (blockSize : Int) : Except BuildError RandomSource :=
  if blockSize < 1 then .error (.blockSize blockSize)
  else if fitsInt64 seed then .ok (.blocks (.ofSeed seed blockSize.toNat))
  else .error (.seedRange seed)

/-- The block size used where none is asked for. -/
def usualBlockSize : Int := 256

def replaying (values : List Int) : Except BuildError RandomSource :=
  if values.isEmpty then .error .noValues
  else if values.any fun value => value < 0 || 255 < value then .error .notBytes
  else .ok (.replay ⟨values.map fun value => UInt8.ofNat value.toNat, 0⟩)

/-- The next byte and the source after it, if the source can deliver one. -/
def next? : RandomSource → Option (UInt8 × RandomSource)
  | blocks source => some (source.next.1, blocks source.next.2)
  | replay source => some (source.next.1, replay source.next.2)
  | stream values position =>
      some (UInt8.ofNat (values position % 256).toNat, stream values (position + 1))
  | absent => none

/-- The next bytes, as far as the source can deliver them, and the source after
them. -/
def take : Nat → RandomSource → List UInt8 × RandomSource
  | 0, source => ([], source)
  | count + 1, source =>
      match source.next? with
      | none => ([], source)
      | some (byte, after) =>
          let (bytes, last) := take count after
          (byte :: bytes, last)

end RandomSource

end Chip8
