/-!
# A counter-based random function

The function takes a key of two 32-bit words and a counter of two 32-bit words
to two random words, by twenty rounds of addition, rotation and exclusive or.
Every four rounds a part of the key is added.  Keys are split into new keys by
running the function at different counters.
-/

namespace Chip8.Threefry

/-- Two 32-bit words: a key, a counter or a result. -/
structure Pair where
  first : UInt32
  second : UInt32
  deriving DecidableEq, Repr, Inhabited

/-- Rotation to the left by fewer than 32 bits. -/
def rotateLeft (word : UInt32) (amount : UInt32) : UInt32 :=
  (word <<< amount) ||| (word >>> (32 - amount))

/-- One round: add, rotate, combine. -/
def mix (state : Pair) (amount : UInt32) : Pair :=
  let sum := state.first + state.second
  ⟨sum, rotateLeft state.second amount ^^^ sum⟩

/-- The rotations of the even and of the odd groups of four rounds. -/
def rotations (group : Nat) : List UInt32 :=
  if group % 2 = 0 then [13, 15, 26, 6] else [17, 29, 16, 24]

/-- The three words of the key schedule. -/
def schedule (key : Pair) (position : Nat) : UInt32 :=
  match position % 3 with
  | 0 => key.first
  | 1 => key.second
  | _ => key.first ^^^ key.second ^^^ 0x1BD11BDA

/-- Four rounds and the key addition that follows them. -/
def mixGroup (key : Pair) (state : Pair) (group : Nat) : Pair :=
  let mixed := (rotations group).foldl mix state
  ⟨mixed.first + schedule key (group + 1),
    mixed.second + schedule key (group + 2) + UInt32.ofNat (group + 1)⟩

/-- The random pair of a key and a counter. -/
def apply (key counter : Pair) : Pair :=
  (List.range 5).foldl (mixGroup key)
    ⟨counter.first + schedule key 0, counter.second + schedule key 1⟩

/-- The key of an integer seed: its low 32 bits. -/
def Pair.ofSeed (seed : Int) : Pair :=
  ⟨0, UInt32.ofNat (seed % 4294967296).toNat⟩

def Pair.next (key : Pair) : Pair := apply key ⟨0, 0⟩

/-- The key split off for one block of bytes. -/
def Pair.child (key : Pair) : Pair := apply key ⟨0, 1⟩

/-- The byte at a position of the block of a key. -/
def Pair.byteAt (key : Pair) (position : Nat) : UInt8 :=
  let random := apply key ⟨0, UInt32.ofNat position⟩
  (random.first ^^^ random.second).toUInt8

end Chip8.Threefry
