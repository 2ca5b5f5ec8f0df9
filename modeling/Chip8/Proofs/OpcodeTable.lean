import Chip8.Machine.Cycle
import Chip8.Proofs.Painting

/-!
# The opcode table

The instruction set as one flat table.  A row has a mask and a value, and a
word belongs to the row if its masked bits are the value.  The effect of a row
is written down in terms of the numbers in the registers, on its own and not
through the instructions of the machine.  No word belongs to two rows.
-/

namespace Chip8

structure Opcode where
  /-- The bits of a word that decide. -/
  mask : Nat
  /-- What these bits have to be. -/
  value : Nat
  /-- What a word of the row does to a machine. -/
  effect : Word → Machine → Machine

namespace Opcode

def Matches (row : Opcode) (word : Nat) : Prop :=
  word &&& row.mask = row.value

instance (row : Opcode) (word : Nat) : Decidable (row.Matches word) :=
  inferInstanceAs (Decidable (_ = _))

/-! ## The vocabulary of the effects -/

def v (machine : Machine) (number : Register) : Nat :=
  (machine.register number).toNat

/-- Put the low eight bits of a number into a register. -/
def put (machine : Machine) (number : Register) (value : Nat) : Machine :=
  machine.setRegister number (UInt8.ofNat value)

/-- A row of the operations on two registers.  The operations with a flag
write it to the last register after the result. -/
def arithmetic (number : Nat) (result : Nat → Nat → Nat)
    (flag : Option (Nat → Nat → Nat)) : Opcode where
  mask := 0xF00F
  value := 0x8000 + number
  effect word machine :=
    let first := v machine word.x
    let second := v machine word.y
    let combined := put machine word.x (result first second)
    match flag with
    | none => combined
    | some flag => put combined 0xF (flag first second)

/-- A row that skips the next instruction under a condition. -/
def skip (mask value : Nat) (condition : Word → Machine → Bool) : Opcode where
  mask := mask
  value := value
  effect word machine :=
    if condition word machine then
      { machine with counter := machine.counter + 2 }
    else machine

/-- Draw the sprite at the index cell by cell, and note in the last register
whether a lit cell was turned off. -/
def draw (word : Word) (machine : Machine) : Machine :=
  let sprite :=
    (machine.memory.toList.drop machine.index.toNat).take word.n
  let painted :=
    Canvas.paintRows (v machine word.x % 64 : Nat) (v machine word.y % 32 : Nat)
      sprite { display := machine.display }
  put { machine with display := painted.display } 0xF
    (if painted.turnedOff then 1 else 0)

/-- Put the lowest held key into a register, or go back to the same
instruction if no key is held. -/
def awaitKey (word : Word) (machine : Machine) : Machine :=
  match machine.keypad.toList.min? with
  | some key => put machine word.x key.toNat
  | none => { machine with counter := machine.counter - 2 }

def random (word : Word) (machine : Machine) : Machine :=
  match machine.random.next? with
  | some (byte, source) =>
      put { machine with random := source } word.x (byte.toNat &&& word.nn)
  | none => machine

/-- Add a register to the index, with the carry out of sixteen bits in the
last register. -/
def addToIndex (word : Word) (machine : Machine) : Machine :=
  let sum := machine.index + v machine word.x
  put { machine with index := sum % 65536 } 0xF (if 65535 < sum then 1 else 0)

/-- Store the hundreds, tens and units of a register from the index on. -/
def storeDecimal (word : Word) (machine : Machine) : Machine :=
  let value := v machine word.x
  let start := machine.index.toNat
  { machine with
    memory :=
      ((machine.memory.setIfInBounds start
        (UInt8.ofNat (value / 100))).setIfInBounds (start + 1)
          (UInt8.ofNat (value / 10 % 10))).setIfInBounds (start + 2)
            (UInt8.ofNat (value % 10)) }

/-- Store the registers up to the given one from the index on. -/
def storeRegisters (word : Word) (machine : Machine) : Machine :=
  { machine with
    memory := Vector.ofFn fun address : Fin memorySize =>
      if machine.index ≤ address ∧ address ≤ machine.index + word.x then
        machine.registers.read (address - machine.index).toNat
      else machine.memory[address]
    index := machine.index + word.x + 1 }

/-- Load the registers up to the given one from the index on. -/
def loadRegisters (word : Word) (machine : Machine) : Machine :=
  { machine with
    registers := Vector.ofFn fun number : Register =>
      if number ≤ word.x then
        machine.memory.read (machine.index + number).toNat
      else machine.register number
    index := machine.index + word.x + 1 }

/-! ## The rows -/

def controlRows : List Opcode :=
  [⟨0xFFFF, 0x00E0, fun _ machine => { machine with display := ∅ }⟩,
    ⟨0xFFFF, 0x00EE, fun _ machine =>
      { machine with
        counter := machine.stack.headD machine.counter
        stack := machine.stack.tail }⟩,
    ⟨0xF000, 0x1000, fun word machine =>
      { machine with counter := word.nnn }⟩,
    ⟨0xF000, 0x2000, fun word machine =>
      { machine with
        counter := word.nnn
        stack := machine.counter % 65536 :: machine.stack }⟩,
    ⟨0xF000, 0xB000, fun word machine =>
      { machine with counter := word.nnn + v machine 0 }⟩]

def skipRows : List Opcode :=
  [skip 0xF000 0x3000 fun word machine => v machine word.x = word.nn,
    skip 0xF000 0x4000 fun word machine => v machine word.x ≠ word.nn,
    skip 0xF00F 0x5000 fun word machine => v machine word.x = v machine word.y,
    skip 0xF00F 0x9000 fun word machine => v machine word.x ≠ v machine word.y,
    skip 0xF0FF 0xE09E fun word machine =>
      (v machine word.x : Int) ∈ machine.keypad.toList,
    skip 0xF0FF 0xE0A1 fun word machine =>
      (v machine word.x : Int) ∉ machine.keypad.toList]

/-- Constants, random bytes, the key at hand and the timers. -/
def registerRows : List Opcode :=
  [⟨0xF000, 0x6000, fun word machine => put machine word.x word.nn⟩,
    ⟨0xF000, 0x7000, fun word machine =>
      put machine word.x (v machine word.x + word.nn)⟩,
    ⟨0xF000, 0xC000, random⟩,
    ⟨0xF0FF, 0xF00A, awaitKey⟩,
    ⟨0xF0FF, 0xF007, fun word machine =>
      put machine word.x machine.delayTimer.toNat⟩,
    ⟨0xF0FF, 0xF015, fun word machine =>
      { machine with delayTimer := v machine word.x }⟩,
    ⟨0xF0FF, 0xF018, fun word machine =>
      { machine with soundTimer := v machine word.x }⟩]

def arithmeticRows : List Opcode :=
  [arithmetic 0x0 (fun _ second => second) none,
    arithmetic 0x1 (fun first second => first ||| second) none,
    arithmetic 0x2 (fun first second => first &&& second) none,
    arithmetic 0x3 (fun first second => first ^^^ second) none,
    arithmetic 0x4 (fun first second => first + second)
      (some fun first second => if 255 < first + second then 1 else 0),
    arithmetic 0x5 (fun first second => first + 256 - second)
      (some fun first second => if first < second then 0 else 1),
    arithmetic 0x6 (fun _ second => second / 2)
      (some fun _ second => second % 2),
    arithmetic 0x7 (fun first second => second + 256 - first)
      (some fun first second => if second < first then 0 else 1),
    arithmetic 0xE (fun _ second => 2 * second)
      (some fun _ second => second / 128)]

def memoryRows : List Opcode :=
  [⟨0xF000, 0xA000, fun word machine => { machine with index := word.nnn }⟩,
    ⟨0xF000, 0xD000, draw⟩,
    ⟨0xF0FF, 0xF01E, addToIndex⟩,
    ⟨0xF0FF, 0xF029, fun word machine =>
      { machine with index := 0x050 + 5 * (v machine word.x % 16 : Nat) }⟩,
    ⟨0xF0FF, 0xF033, storeDecimal⟩,
    ⟨0xF0FF, 0xF055, storeRegisters⟩,
    ⟨0xF0FF, 0xF065, loadRegisters⟩]

def table : List Opcode :=
  controlRows ++ skipRows ++ registerRows ++ arithmeticRows ++ memoryRows

/-! ## No word belongs to two rows -/

/-- Two rows differ in a bit that both of them look at. -/
def Apart (first second : Opcode) : Prop :=
  first.value &&& second.mask ≠ second.value &&& first.mask

instance : DecidableRel Apart :=
  fun _ _ => inferInstanceAs (Decidable (_ ≠ _))

private theorem not_matches_of_apart
    {first second : Opcode} {word : Nat}
    (apart : Apart first second) (hit : first.Matches word) :
    ¬ second.Matches word := by
  intro alsoHit
  apply apart
  rw [← hit, ← alsoHit, Nat.and_assoc, Nat.and_assoc,
    Nat.and_comm first.mask]

theorem table_apart : table.Pairwise Apart := by
  decide

/-- Of rows that are pairwise apart, at most one has the word. -/
theorem length_filter_matches_le
    {rows : List Opcode} (apart : rows.Pairwise Apart) (word : Nat) :
    (rows.filter fun row => row.Matches word).length ≤ 1 := by
  induction rows with
  | nil => simp
  | cons row rest inductionHypothesis =>
      obtain ⟨apartRest, restApart⟩ := List.pairwise_cons.mp apart
      by_cases hit : row.Matches word
      · have noneLeft :
            rest.filter (fun other => other.Matches word) = [] := by
          apply List.filter_eq_nil_iff.mpr
          intro other member
          simpa using not_matches_of_apart (apartRest other member) hit
        rw [List.filter_cons_of_pos (by simpa using hit), noneLeft]
        rfl
      · rw [List.filter_cons_of_neg (by simpa using hit)]
        exact inductionHypothesis restApart

end Opcode

end Chip8
