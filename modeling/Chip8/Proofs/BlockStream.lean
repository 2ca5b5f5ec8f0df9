import Chip8.Proofs.RandomDraws

/-!
# The bytes of a block source

A block source holds a key that changes with every block and a position in the
current block.  The bytes that it delivers have a closed form all the same: the
byte with a given number is found from the seed, the number of its block and its
place in the block.  The form is written in plain numbers, and the random
function on words is shown to compute it.
-/

namespace Chip8

namespace Threefry

/-! ## The random function in plain numbers -/

/-- The bits of a word of 32 bits turned to the left. -/
def turn (word amount : Nat) : Nat :=
  (word <<< amount) % 4294967296 ||| word >>> (32 - amount)

/-- How far the words are turned in the rounds of a group. -/
def turns (group : Nat) : List Nat :=
  if group % 2 = 0 then [13, 15, 26, 6] else [17, 29, 16, 24]

def round (words : Nat × Nat) (amount : Nat) : Nat × Nat :=
  let sum := (words.1 + words.2) % 4294967296
  (sum, turn words.2 amount ^^^ sum)

/-- The three parts of a key, one after the other and again. -/
def keyPart (key : Nat × Nat) (position : Nat) : Nat :=
  [key.1, key.2, key.1 ^^^ key.2 ^^^ 0x1BD11BDA].getD (position % 3) 0

/-- Four rounds, after which two parts of the key and the number of the group
are added. -/
def roundGroup (key words : Nat × Nat) (group : Nat) : Nat × Nat :=
  let turned := (turns group).foldl round words
  ((turned.1 + keyPart key (group + 1)) % 4294967296,
    (turned.2 + keyPart key (group + 2) + (group + 1)) % 4294967296)

/-- The random words of a key and a counter. -/
def formula (key counter : Nat × Nat) : Nat × Nat :=
  (List.range 5).foldl (roundGroup key)
    ((counter.1 + keyPart key 0) % 4294967296,
      (counter.2 + keyPart key 1) % 4294967296)

namespace Pair

def numbers (pair : Pair) : Nat × Nat := (pair.first.toNat, pair.second.toNat)

end Pair

private theorem toNat_rotateLeft
    (word : UInt32) {amount : UInt32}
    (positive : 0 < amount.toNat) (small : amount.toNat < 32) :
    (rotateLeft word amount).toNat = turn word.toNat amount.toNat := by
  have back : (32 - amount).toNat = 32 - amount.toNat := by
    apply UInt32.toNat_sub_of_le
    apply UInt32.le_iff_toNat_le.mpr
    exact Nat.le_of_lt small
  have sameLeft : amount.toNat % 32 = amount.toNat := Nat.mod_eq_of_lt small
  have sameRight : (32 - amount.toNat) % 32 = 32 - amount.toNat :=
    Nat.mod_eq_of_lt (by omega)
  simp only [rotateLeft, turn, UInt32.toNat_or, UInt32.toNat_shiftLeft,
    UInt32.toNat_shiftRight, back, sameLeft, sameRight]

private theorem numbers_mix
    (state : Pair) {amount : UInt32}
    (positive : 0 < amount.toNat) (small : amount.toNat < 32) :
    (mix state amount).numbers = round state.numbers amount.toNat := by
  simp only [Pair.numbers, mix, round, UInt32.toNat_add, UInt32.toNat_xor,
    toNat_rotateLeft _ positive small]

private theorem numbers_foldl_mix
    (state : Pair) {amounts : List UInt32}
    (proper : ∀ amount ∈ amounts, 0 < amount.toNat ∧ amount.toNat < 32) :
    (amounts.foldl mix state).numbers =
      (amounts.map UInt32.toNat).foldl round state.numbers := by
  induction amounts generalizing state with
  | nil => rfl
  | cons amount later inductionHypothesis =>
      obtain ⟨⟨positive, small⟩, laterProper⟩ := List.forall_mem_cons.mp proper
      rw [List.foldl_cons, inductionHypothesis _ laterProper,
        numbers_mix state positive small]
      rfl

private theorem rotations_proper (group : Nat) :
    ∀ amount ∈ rotations group, 0 < amount.toNat ∧ amount.toNat < 32 := by
  unfold rotations
  split <;> simp

private theorem map_toNat_rotations (group : Nat) :
    (rotations group).map UInt32.toNat = turns group := by
  unfold rotations turns
  split <;> rfl

theorem toNat_schedule (key : Pair) (position : Nat) :
    (schedule key position).toNat = keyPart key.numbers position := by
  have places : position % 3 = 0 ∨ position % 3 = 1 ∨ position % 3 = 2 := by
    omega
  unfold schedule keyPart
  rcases places with isFirst | isSecond | isThird
  · rw [isFirst]
    rfl
  · rw [isSecond]
    rfl
  · rw [isThird]
    simp [Pair.numbers]

private theorem numbers_mixGroup
    (key state : Pair) {group : Nat} (small : group + 1 < 4294967296) :
    (mixGroup key state group).numbers =
      roundGroup key.numbers state.numbers group := by
  have mixed := numbers_foldl_mix state (rotations_proper group)
  rw [map_toNat_rotations] at mixed
  obtain ⟨isFirst, isSecond⟩ := Prod.mk.inj mixed
  have number : (UInt32.ofNat (group + 1)).toNat = group + 1 :=
    UInt32.toNat_ofNat_of_lt' small
  simp only [mixGroup, roundGroup, Pair.numbers, UInt32.toNat_add,
    toNat_schedule, number, isFirst, isSecond, Nat.mod_add_mod]

private theorem numbers_foldl_mixGroup
    (key state : Pair) {groups : List Nat}
    (small : ∀ group ∈ groups, group + 1 < 4294967296) :
    (groups.foldl (mixGroup key) state).numbers =
      groups.foldl (roundGroup key.numbers) state.numbers := by
  induction groups generalizing state with
  | nil => rfl
  | cons group later inductionHypothesis =>
      obtain ⟨groupSmall, laterSmall⟩ := List.forall_mem_cons.mp small
      rw [List.foldl_cons, inductionHypothesis _ laterSmall,
        numbers_mixGroup key state groupSmall]
      rfl

/-- The random function computes the formula. -/
theorem numbers_apply (key counter : Pair) :
    (apply key counter).numbers = formula key.numbers counter.numbers := by
  have start :
      (⟨counter.first + schedule key 0, counter.second + schedule key 1⟩ :
          Pair).numbers =
        ((counter.first.toNat + keyPart key.numbers 0) % 4294967296,
          (counter.second.toNat + keyPart key.numbers 1) % 4294967296) := by
    simp only [Pair.numbers, UInt32.toNat_add, toNat_schedule]
  rw [apply, numbers_foldl_mixGroup _ _ (by decide), start]
  rfl

theorem toNat_byteAt
    (key : Pair) {position : Nat} (small : position < 4294967296) :
    (key.byteAt position).toNat =
      ((formula key.numbers (0, position)).1 ^^^
        (formula key.numbers (0, position)).2) % 256 := by
  have counter : (⟨0, UInt32.ofNat position⟩ : Pair).numbers = (0, position) :=
    Prod.ext rfl (UInt32.toNat_ofNat_of_lt' small)
  have computed := numbers_apply key ⟨0, UInt32.ofNat position⟩
  rw [counter] at computed
  rw [← computed, Pair.byteAt, UInt32.toNat_toUInt8, UInt32.toNat_xor]
  rfl

end Threefry

/-! ## The closed form -/

namespace BlockSource

/-- The key that is left after some blocks have been split off the key of a
seed. -/
def keyAfter (seed : Int) : Nat → Nat × Nat
  | 0 => (0, (seed % 4294967296).toNat)
  | blocks + 1 => Threefry.formula (keyAfter seed blocks) (0, 0)

/-- The key of the block with the given number. -/
def blockKey (seed : Int) (block : Nat) : Nat × Nat :=
  Threefry.formula (keyAfter seed block) (0, 1)

/-- The byte with the given number, from blocks of the given size. -/
def byteNumber (seed : Int) (size number : Nat) : Nat :=
  let words :=
    Threefry.formula (blockKey seed (number / size)) (0, number % size)
  (words.1 ^^^ words.2) % 256

/-- The state of a source that has just delivered the byte with the given
number. -/
structure Behind (seed : Int) (size number : Nat) (source : BlockSource) :
    Prop where
  isSize : source.size = size
  key : source.key.numbers = keyAfter seed (number / size + 1)
  block : source.block.numbers = blockKey seed (number / size)
  taken : source.taken = number % size + 1

variable {seed : Int} {size : Nat}

private theorem numbers_ofSeed (seed : Int) :
    (Threefry.Pair.ofSeed seed).numbers = keyAfter seed 0 := by
  have small : (seed % 4294967296).toNat < 4294967296 := by omega
  exact Prod.ext rfl (UInt32.toNat_ofNat_of_lt' small)

/-- A source whose next block has the given number delivers its first byte. -/
theorem refill_take
    {source : BlockSource} {number : Nat}
    (isSize : source.size = size) (atStart : number % size = 0)
    (isKey : source.key.numbers = keyAfter seed (number / size)) :
    source.refill.take.1.toNat = byteNumber seed size number ∧
      Behind seed size number source.refill.take.2 := by
  have nextKey :
      source.key.next.numbers = keyAfter seed (number / size + 1) := by
    rw [Threefry.Pair.next, Threefry.numbers_apply, isKey]
    rfl
  have childKey :
      source.key.child.numbers = blockKey seed (number / size) := by
    rw [Threefry.Pair.child, Threefry.numbers_apply, isKey]
    rfl
  constructor
  · have byte := @Threefry.toNat_byteAt source.key.child 0 (by decide)
    rw [childKey] at byte
    rw [byteNumber, atStart]
    exact byte
  · exact
      { isSize := isSize
        key := nextKey
        block := childKey
        taken := by rw [atStart]; rfl }

private theorem place_succ_of_more
    {number : Nat} (more : number % size + 1 < size) :
    (number + 1) / size = number / size ∧
      (number + 1) % size = number % size + 1 := by
  have parts := Nat.div_add_mod number size
  apply (Nat.div_mod_unique (by omega)).mpr
  exact ⟨by omega, more⟩

private theorem place_succ_of_last
    {number : Nat} (last : number % size + 1 = size) :
    (number + 1) / size = number / size + 1 ∧ (number + 1) % size = 0 := by
  have parts := Nat.div_add_mod number size
  apply (Nat.div_mod_unique (by omega)).mpr
  refine ⟨?_, by omega⟩
  rw [Nat.mul_add]
  omega

/-- Behind a byte that is not the last one of its block comes the next one of
the same block. -/
theorem Behind.take
    {source : BlockSource} {number : Nat}
    (behind : Behind seed size number source)
    (more : number % size + 1 < size) (small : size < 4294967296) :
    source.take.1.toNat = byteNumber seed size (number + 1) ∧
      Behind seed size (number + 1) source.take.2 := by
  obtain ⟨sameBlock, nextPlace⟩ := place_succ_of_more more
  constructor
  · have byte :=
      @Threefry.toNat_byteAt source.block (number % size + 1) (by omega)
    rw [behind.block, ← behind.taken] at byte
    rw [byteNumber, sameBlock, nextPlace, ← behind.taken]
    exact byte
  · exact
      { isSize := behind.isSize
        key := by rw [sameBlock]; exact behind.key
        block := by rw [sameBlock]; exact behind.block
        taken := by rw [nextPlace, ← behind.taken]; rfl }

/-- One step: behind a byte comes the next one, from a new block if the current
one is used up. -/
theorem Behind.next
    {source : BlockSource} {number : Nat}
    (behind : Behind seed size number source)
    (positive : 1 ≤ size) (small : size < 4294967296) :
    source.next.1.toNat = byteNumber seed size (number + 1) ∧
      Behind seed size (number + 1) source.next.2 := by
  have place : number % size < size := Nat.mod_lt _ positive
  have condition : source.size ≤ source.taken ↔ size ≤ number % size + 1 := by
    rw [behind.isSize, behind.taken]
  by_cases used : size ≤ number % size + 1
  · obtain ⟨nextBlock, atStart⟩ :=
      @place_succ_of_last size number (by omega)
    rw [BlockSource.next, if_pos (condition.mpr used)]
    apply refill_take behind.isSize atStart
    rw [nextBlock]
    exact behind.key
  · rw [BlockSource.next, if_neg (mt condition.mp used)]
    exact behind.take (by omega) small

private theorem next_ofSeed (seed : Int) (size : Nat) :
    (ofSeed seed size).next.1.toNat = byteNumber seed size 0 ∧
      Behind seed size 0 (ofSeed seed size).next.2 := by
  rw [next, if_pos (show (ofSeed seed size).size ≤ (ofSeed seed size).taken from
    Nat.le_refl size)]
  apply refill_take rfl (Nat.zero_mod size)
  rw [Nat.zero_div]
  exact numbers_ofSeed seed

/-- A byte of the first block does not depend on the size of the blocks. -/
theorem byteNumber_of_lt
    (seed : Int) {size number : Nat} (inFirst : number < size) :
    byteNumber seed size number =
      byteNumber seed (number + 1) number := by
  have first := Nat.lt_succ_self number
  simp only [byteNumber, Nat.div_eq_of_lt inFirst,
    Nat.mod_eq_of_lt inFirst, Nat.div_eq_of_lt first, Nat.mod_eq_of_lt first]

end BlockSource

namespace RandomSource

/-- The bytes of a block source behind the byte with the given number. -/
theorem map_take_of_behind
    {seed : Int} {size number : Nat} {source : BlockSource}
    (positive : 1 ≤ size) (small : size < 4294967296)
    (behind : BlockSource.Behind seed size number source) (count : Nat) :
    (take count (.blocks source)).1.map UInt8.toNat =
      (List.range count).map fun later =>
        BlockSource.byteNumber seed size (number + 1 + later) := by
  induction count generalizing source number with
  | zero => rfl
  | succ count inductionHypothesis =>
      obtain ⟨byte, behindNext⟩ := behind.next positive small
      have rest := inductionHypothesis behindNext
      rw [bytes_take_succ rfl, List.map_cons, byte, rest,
        List.range_succ_eq_map, List.map_cons, List.map_map]
      simp only [Nat.add_zero, Function.comp_def, Nat.succ_eq_add_one,
        Nat.add_assoc, Nat.add_comm 1]

/-- The bytes of a seeded source are those of the numbered blocks, for blocks of
any usable size. -/
theorem map_take_ofSeed
    (seed : Int) {size : Nat}
    (positive : 1 ≤ size) (small : size < 4294967296) (count : Nat) :
    (take count (.blocks (.ofSeed seed size))).1.map UInt8.toNat =
      (List.range count).map (BlockSource.byteNumber seed size) := by
  cases count with
  | zero => rfl
  | succ count =>
      obtain ⟨byte, behind⟩ := BlockSource.next_ofSeed seed size
      have rest := map_take_of_behind positive small behind count
      rw [bytes_take_succ rfl, List.map_cons, byte, rest,
        List.range_succ_eq_map, List.map_cons, List.map_map]
      simp only [Nat.zero_add, Nat.add_comm 1]
      rfl

theorem seeded_of_fits
    {seed size : Int}
    (fits : -9223372036854775808 ≤ seed ∧ seed ≤ 9223372036854775807)
    (positive : 1 ≤ size) :
    seeded seed size = .ok (.blocks (.ofSeed seed size.toNat)) := by
  have large : ¬ size < 1 := by omega
  simp [seeded, fitsInt64, fits, large]

/-- A seed of 64 bits and a block size of 32 bits make a source, whose bytes
are those of the closed form.  Sources of one seed therefore agree until the
smaller of their first blocks is used up. -/
theorem seeded_bytes
    {seed size : Int}
    (fits : -9223372036854775808 ≤ seed ∧ seed ≤ 9223372036854775807)
    (positive : 1 ≤ size) (small : size < 4294967296) :
    ∃ source,
      seeded seed size = .ok source ∧
      (∀ count,
        (source.take count).1.map UInt8.toNat =
          (List.range count).map
            (BlockSource.byteNumber seed size.toNat)) ∧
      ∀ other : Int, 1 ≤ other → other < 4294967296 →
        ∃ otherSource,
          seeded seed other = .ok otherSource ∧
          ∀ count : Nat, count ≤ min size other →
            (source.take count).1 = (otherSource.take count).1 := by
  have bytes :=
    @map_take_ofSeed seed size.toNat (by omega) (by omega)
  refine ⟨_, seeded_of_fits fits positive, bytes, ?_⟩
  intro other otherPositive otherSmall
  have otherBytes :=
    @map_take_ofSeed seed other.toNat (by omega) (by omega)
  refine ⟨_, seeded_of_fits fits otherPositive, ?_⟩
  intro count within
  apply List.map_injective_iff.mpr (fun _ _ => UInt8.toNat_inj.mp)
  rw [bytes, otherBytes]
  apply List.map_congr_left
  intro number belongs
  have below := List.mem_range.mp belongs
  rw [@BlockSource.byteNumber_of_lt seed size.toNat number (by omega),
    @BlockSource.byteNumber_of_lt seed other.toNat number (by omega)]

theorem seeded_bytes_single :
    ∃ source otherSource,
      seeded 0 1 = .ok source ∧
      (source.take 3).1.map UInt8.toNat = [101, 175, 73] ∧
      seeded 0 256 = .ok otherSource ∧
      (source.take 1).1 = (otherSource.take 1).1 := by
  obtain ⟨source, built, bytes, agrees⟩ :=
    @seeded_bytes 0 1 (by decide) (by decide) (by decide)
  obtain ⟨otherSource, otherBuilt, same⟩ :=
    agrees 256 (by decide) (by decide)
  have computed :
      (List.range 3).map (BlockSource.byteNumber 0 (1 : Int).toNat) =
        [101, 175, 73] := by
    decide +kernel
  exact ⟨source, otherSource, built, (bytes 3).trans computed, otherBuilt,
    same 1 (by decide)⟩

end RandomSource

end Chip8
