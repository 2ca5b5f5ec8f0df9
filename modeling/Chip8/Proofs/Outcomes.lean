import Chip8.Proofs.Atomicity
import Chip8.Proofs.Bytes
import Chip8.Proofs.Frame
import Chip8.Proofs.SortedSet
import Chip8.Proofs.WordMeanings

/-!
# Which cycle ends how

The ending of a cycle is determined by the word at the counter and a few parts
of the machine.  The conditions are stated on the digits of the word: a fetch
or an access outside the memory, a return without a call, a call beyond the
limit, and a value for a register that is no byte.  Every other cycle is done,
and then all bytes that its instruction asks for lie in memory.
-/

namespace Chip8

namespace Word

/-- The number of bytes from the index on that a word asks for. -/
def accessLength (word : Word) : Nat :=
  if word.group = 0xD then word.n
  else if word.group = 0xF ∧ word.nn = 0x33 then 3
  else if word.group = 0xF ∧ (word.nn = 0x55 ∨ word.nn = 0x65) then word.x + 1
  else 0

end Word

namespace Instruction

/-! ## Reading an instruction off its word -/

/-- How many bytes an instruction reaches can be read off the digits of its
word. -/
theorem reach_ofWord (word : Word) :
    (ofWord word).reach = word.accessLength := by
  have means := word.means_ofWord
  generalize ofWord word = instruction at means
  unfold Word.accessLength
  cases means with
  | ignore unassigned =>
      unfold Word.Unassigned at unassigned
      grind [reach]
  | draw isGroup => rw [if_pos isGroup, reach]
  | storeDecimal isGroup isByte | storeRegisters isGroup isByte
  | loadRegisters isGroup isByte | readDelay isGroup isByte
  | awaitKey isGroup isByte | setDelay isGroup isByte
  | setSound isGroup isByte | addToIndex isGroup isByte
  | pointAtGlyph isGroup isByte => simp [isGroup, isByte, reach]
  | _ => simp_all [reach]

theorem ofWord_eq_returnToCaller_iff (word : Word) :
    ofWord word = .returnToCaller ↔ word.toNat = 0x00EE := by
  rw [Word.ofWord_eq_iff]
  constructor
  · intro means
    cases means with
    | returnToCaller _ isWord => exact isWord
  · intro isWord
    refine .returnToCaller (Fin.ext ?_) isWord
    change word.toNat / 4096 = 0
    omega

theorem ofWord_eq_call_iff {word : Word} {target : Nat} :
    ofWord word = .call target ↔ word.group = 2 ∧ target = word.nnn := by
  rw [Word.ofWord_eq_iff]
  constructor
  · intro means
    cases means with
    | call isGroup => exact ⟨isGroup, rfl⟩
  · rintro ⟨isGroup, rfl⟩
    exact .call isGroup

theorem ofWord_eq_readDelay_iff {word : Word} {register : Register} :
    ofWord word = .readDelay register ↔
      word.group = 0xF ∧ word.nn = 0x07 ∧ register = word.x := by
  rw [Word.ofWord_eq_iff]
  constructor
  · intro means
    cases means with
    | readDelay isGroup isByte => exact ⟨isGroup, isByte, rfl⟩
  · rintro ⟨isGroup, isByte, rfl⟩
    exact .readDelay isGroup isByte

theorem ofWord_eq_awaitKey_iff {word : Word} {register : Register} :
    ofWord word = .awaitKey register ↔
      word.group = 0xF ∧ word.nn = 0x0A ∧ register = word.x := by
  rw [Word.ofWord_eq_iff]
  constructor
  · intro means
    cases means with
    | awaitKey isGroup isByte => exact ⟨isGroup, isByte, rfl⟩
  · rintro ⟨isGroup, isByte, rfl⟩
    exact .awaitKey isGroup isByte

end Instruction

namespace Machine

/-! ## When an instruction is blocked -/

theorem byteFailure_eq_some_iff
    {value : Int} {failure : Failure} :
    byteFailure value = some failure ↔
      ¬ (0 ≤ value ∧ value ≤ 255) ∧ failure = .notAByte value := by
  unfold byteFailure
  by_cases isByte : 0 ≤ value ∧ value ≤ 255
  · simp [isByte]
  · simp [isByte, eq_comm]

private theorem obstacle_eq_some_iff
    {machine : Machine} {instruction : Instruction} {failure : Failure}
    (delivers : machine.random.next? ≠ none) :
    machine.obstacle instruction = some failure ↔
      (∃ register, instruction = .readDelay register ∧
        ¬ (0 ≤ machine.delayTimer ∧ machine.delayTimer ≤ 255) ∧
        failure = .notAByte machine.delayTimer) ∨
      (∃ register key, instruction = .awaitKey register ∧
        (key ∈ machine.keypad ∧ ∀ other ∈ machine.keypad, key ≤ other) ∧
        ¬ (0 ≤ key ∧ key ≤ 255) ∧ failure = .notAByte key) := by
  cases instruction with
  | readDelay register =>
      simp [obstacle, byteFailure_eq_some_iff]
  | awaitKey register =>
      simp only [obstacle, Option.bind_eq_some_iff, byteFailure_eq_some_iff,
        SortedSet.min?_eq_some_iff]
      simp
  | randomByte register mask => simp [obstacle, delivers]
  | _ => simp [obstacle]

/-! ## The conditions on a machine -/

def FetchesOutside (machine : Machine) : Prop :=
  machine.counter < 0 ∨ 4094 < machine.counter

/-- The word at the counter is a return, but nothing was called. -/
def ReturnsUncalled (machine : Machine) : Prop :=
  machine.wordAtCounter.toNat = 0x00EE ∧ machine.stack = []

/-- The word at the counter is a call, but the stack is at its limit. -/
def CallsTooDeep (machine : Machine) : Prop :=
  machine.wordAtCounter.group = 2 ∧
    ∃ limit, machine.stackLimit = some limit ∧ limit ≤ machine.stack.length

/-- The word at the counter asks for bytes that do not lie in memory. -/
def ReachesOutside (machine : Machine) : Prop :=
  0 < machine.wordAtCounter.accessLength ∧
    (machine.index < 0 ∨
      4096 < machine.index + machine.wordAtCounter.accessLength)

/-- The word at the counter stores the delay timer or the least key in a
register, but this is no byte. -/
def StoresNoByte (machine : Machine) (keys : KeySet) : Prop :=
  machine.wordAtCounter.group = 0xF ∧
    (machine.wordAtCounter.nn = 0x07 ∧
        ¬ (0 ≤ machine.delayTimer ∧ machine.delayTimer ≤ 255) ∨
      machine.wordAtCounter.nn = 0x0A ∧
        ∃ key ∈ keys, (∀ other ∈ keys, key ≤ other) ∧
          ¬ (0 ≤ key ∧ key ≤ 255))

/-- A cycle ends in a fault of the given kind. -/
def FaultsWith (machine : Machine) (keys : KeySet) (kind : FaultKind) : Prop :=
  ∃ fault after,
    machine.cycle keys = .fault fault after ∧ fault.kind = kind

variable {machine : Machine} {keys : KeySet}

theorem canFetch_eq_true_iff :
    machine.canFetch = true ↔ ¬ machine.FetchesOutside := by
  rw [canFetch_iff, FetchesOutside]
  omega

/-- The instruction at the counter is refused under one of three conditions,
each with a kind of its own. -/
theorem refusal_kind_iff {kind : FaultKind} :
    (∃ cause,
      (machine.ready keys).refusal machine.instructionAtCounter = some cause ∧
        cause.kind = kind) ↔
      (machine.ReturnsUncalled ∧ kind = .stackUnderflow) ∨
      (machine.CallsTooDeep ∧ kind = .stackOverflow) ∨
      (machine.ReachesOutside ∧ kind = .memoryAccess) := by
  simp only [refusal_eq_some_iff, instructionAtCounter,
    Instruction.reach_ofWord, Instruction.ofWord_eq_returnToCaller_iff,
    Instruction.ofWord_eq_call_iff]
  constructor
  · intro refused
    obtain ⟨cause, reason, isKind⟩ := refused
    rcases reason with
      ⟨isReturn, noCaller, rfl⟩ |
      ⟨target, limit, ⟨isCall, _⟩, limited, full, rfl⟩ | ⟨outside, rfl⟩
    · exact .inl ⟨⟨isReturn, noCaller⟩, isKind.symm⟩
    · exact .inr (.inl ⟨⟨isCall, limit, limited, full⟩, isKind.symm⟩)
    · exact .inr (.inr ⟨outside, isKind.symm⟩)
  · intro condition
    rcases condition with
      ⟨⟨isReturn, noCaller⟩, rfl⟩ |
      ⟨⟨isCall, limit, limited, full⟩, rfl⟩ | ⟨outside, rfl⟩
    · exact ⟨.stackEmpty, .inl ⟨isReturn, noCaller, rfl⟩, rfl⟩
    · exact ⟨.stackFull limit,
        .inr (.inl ⟨_, limit, ⟨isCall, rfl⟩, limited, full, rfl⟩), rfl⟩
    · exact ⟨_, .inr (.inr ⟨outside, rfl⟩), rfl⟩

/-- The fault of a cycle is that of the fetch, or else the first one that its
word can raise. -/
theorem faultsWith_iff {kind : FaultKind} :
    machine.FaultsWith keys kind ↔
      (machine.FetchesOutside ∧ kind = .memoryAccess) ∨
      (¬ machine.FetchesOutside ∧
        ((machine.ReturnsUncalled ∧ kind = .stackUnderflow) ∨
          (machine.CallsTooDeep ∧ kind = .stackOverflow) ∨
          (machine.ReachesOutside ∧ kind = .memoryAccess))) := by
  rw [← @refusal_kind_iff machine keys kind, ← canFetch_eq_true_iff]
  unfold FaultsWith
  constructor
  · intro faulted
    obtain ⟨fault, after, broken, isKind⟩ := faulted
    obtain ⟨_, ⟨outside, rfl⟩ | ⟨inside, cause, refused, rfl⟩⟩ :=
      cycle_eq_fault_iff.mp broken
    · refine .inl ⟨?_, isKind.symm⟩
      by_contra inside
      rw [← canFetch_eq_true_iff, outside] at inside
      exact Bool.false_ne_true inside
    · exact .inr ⟨inside, cause, refused, isKind⟩
  · intro condition
    rcases condition with ⟨outside, rfl⟩ | ⟨inside, cause, refused, isKind⟩
    · have cannotFetch : machine.canFetch = false := by
        rw [← Bool.not_eq_true, canFetch_eq_true_iff, not_not]
        exact outside
      exact ⟨machine.fetchFault, machine,
        cycle_eq_fault_iff.mpr ⟨rfl, .inl ⟨cannotFetch, rfl⟩⟩, rfl⟩
    · exact ⟨_, machine,
        cycle_eq_fault_iff.mpr ⟨rfl, .inr ⟨inside, cause, refused, rfl⟩⟩,
        isKind⟩

/-- A cycle that fails stores no byte; with a source of random bytes there is
no other way to fail. -/
theorem storesNoByte_of_failure
    {failure : Failure} {after : Machine}
    (delivers : machine.random.next? ≠ none)
    (failed : machine.cycle keys = .failure failure after) :
    ¬ machine.FetchesOutside ∧ machine.StoresNoByte keys ∧
      ∃ value, failure = .notAByte value := by
  obtain ⟨inside, executed⟩ := cycle_eq_failure_iff.mp failed
  obtain ⟨_, blocked, _⟩ := execute_eq_failure_iff.mp executed
  have readyDelivers : (machine.ready keys).random.next? ≠ none := delivers
  refine ⟨canFetch_eq_true_iff.mp inside, ?_⟩
  rcases (obstacle_eq_some_iff readyDelivers).mp blocked with
    ⟨register, isRead, noByte, rfl⟩ |
    ⟨register, key, isWait, ⟨held, least⟩, noByte, rfl⟩
  · obtain ⟨isGroup, isByte, _⟩ := Instruction.ofWord_eq_readDelay_iff.mp isRead
    exact ⟨⟨isGroup, .inl ⟨isByte, noByte⟩⟩, _, rfl⟩
  · obtain ⟨isGroup, isByte, _⟩ := Instruction.ofWord_eq_awaitKey_iff.mp isWait
    exact ⟨⟨isGroup, .inr ⟨isByte, key, held, least, noByte⟩⟩, _, rfl⟩

/-- A value that is no byte cannot be stored in a register. -/
theorem failure_of_storesNoByte
    (inside : ¬ machine.FetchesOutside)
    (noByte : machine.StoresNoByte keys) :
    ∃ value after, machine.cycle keys = .failure (.notAByte value) after := by
  obtain ⟨isGroup, source⟩ := noByte
  have canFetch := canFetch_eq_true_iff.mpr inside
  rcases source with
    ⟨isByte, outOfRange⟩ | ⟨isByte, key, held, least, outOfRange⟩
  · have isRead :
        machine.instructionAtCounter = .readDelay machine.wordAtCounter.x :=
      Instruction.ofWord_eq_readDelay_iff.mpr ⟨isGroup, isByte, rfl⟩
    refine ⟨machine.delayTimer, machine.ready keys,
      cycle_eq_failure_iff.mpr ⟨canFetch, execute_eq_failure_iff.mpr ?_⟩⟩
    rw [isRead]
    exact ⟨checkRange_zero _, byteFailure_eq_some_iff.mpr ⟨outOfRange, rfl⟩,
      rfl⟩
  · have isWait :
        machine.instructionAtCounter = .awaitKey machine.wordAtCounter.x :=
      Instruction.ofWord_eq_awaitKey_iff.mpr ⟨isGroup, isByte, rfl⟩
    refine ⟨key, machine.ready keys,
      cycle_eq_failure_iff.mpr ⟨canFetch, execute_eq_failure_iff.mpr ?_⟩⟩
    rw [isWait]
    exact ⟨checkRange_zero _, Option.bind_eq_some_iff.mpr
      ⟨key, SortedSet.min?_eq_some_iff.mpr ⟨held, least⟩,
        byteFailure_eq_some_iff.mpr ⟨outOfRange, rfl⟩⟩, rfl⟩

/-- A cycle is done exactly if none of the conditions holds. -/
theorem done_iff (delivers : machine.random.next? ≠ none) :
    (∃ next, machine.cycle keys = .done next) ↔
      ¬ (machine.FetchesOutside ∨ machine.ReturnsUncalled ∨
        machine.CallsTooDeep ∨ machine.ReachesOutside ∨
        machine.StoresNoByte keys) := by
  constructor
  · intro complete condition
    obtain ⟨next, complete⟩ := complete
    have noFault : ∀ kind, ¬ machine.FaultsWith keys kind := by
      intro kind faulted
      obtain ⟨fault, after, broken, _⟩ := faulted
      simp [complete] at broken
    have inside : ¬ machine.FetchesOutside := fun outside =>
      noFault .memoryAccess (faultsWith_iff.mpr (.inl ⟨outside, rfl⟩))
    rcases condition with outside | uncalled | tooDeep | beyond | noByte
    · exact inside outside
    · exact noFault .stackUnderflow
        (faultsWith_iff.mpr (.inr ⟨inside, .inl ⟨uncalled, rfl⟩⟩))
    · exact noFault .stackOverflow
        (faultsWith_iff.mpr (.inr ⟨inside, .inr (.inl ⟨tooDeep, rfl⟩)⟩))
    · exact noFault .memoryAccess
        (faultsWith_iff.mpr (.inr ⟨inside, .inr (.inr ⟨beyond, rfl⟩)⟩))
    · obtain ⟨value, after, failed⟩ := failure_of_storesNoByte inside noByte
      simp [complete] at failed
  · intro free
    cases ended : machine.cycle keys with
    | done next => exact ⟨next, rfl⟩
    | fault fault after =>
        have faulted : machine.FaultsWith keys fault.kind :=
          ⟨fault, after, ended, rfl⟩
        have condition := faultsWith_iff.mp faulted
        exact absurd condition (by tauto)
    | failure failure after =>
        have condition := storesNoByte_of_failure delivers ended
        exact absurd condition.2.1 (by tauto)

/-! ## What a completed cycle touches -/

theorem inside_of_done
    {next : Machine}
    (delivers : machine.random.next? ≠ none)
    (complete : machine.cycle keys = .done next) :
    machine.wordAtCounter.accessLength = 0 ∨
      (0 ≤ machine.index ∧
        machine.index + machine.wordAtCounter.accessLength ≤ 4096) := by
  have free := (done_iff delivers).mp ⟨next, complete⟩
  have notBeyond : ¬ machine.ReachesOutside := by tauto
  unfold ReachesOutside at notBeyond
  omega

private theorem read_memory_of_done
    {next : Machine} {address : Nat}
    (delivers : machine.random.next? ≠ none)
    (complete : machine.cycle keys = .done next)
    (outside : (address : Int) < machine.index ∨
      machine.index + machine.wordAtCounter.accessLength ≤ address) :
    next.memory.read address = machine.memory.read address := by
  have range := inside_of_done delivers complete
  obtain ⟨_, executed⟩ := cycle_eq_done_iff.mp complete
  obtain ⟨_, _, rfl⟩ := execute_eq_done_iff.mp executed
  rw [← Instruction.reach_ofWord] at range outside
  refine read_memory_carryOut (machine.ready keys) _ ?_
  change address < machine.index.toNat ∨
    machine.index.toNat + (Instruction.ofWord machine.wordAtCounter).reach ≤
      address
  omega

end Machine

end Chip8
