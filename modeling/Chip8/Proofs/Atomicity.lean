import Chip8.Proofs.Bytes
import Chip8.Proofs.Execution

/-!
# A faulting cycle is atomic

A cycle that ends in a fault leaves the machine exactly as it was, and the
fault names the instruction at work: its address always, and its word unless
there was no word to fetch.
-/

namespace Chip8.Machine

/-- No instruction is refused for the reason for which a fetch is. -/
theorem refusal_ne_fetchOutside
    (machine : Machine) (instruction : Instruction) :
    machine.refusal instruction ≠ some .fetchOutside := by
  rw [Ne, refusal_eq_some_iff]
  simp

/-- The word at the counter is made of the two bytes there, the high byte
first. -/
theorem wordAtCounter_bytes
    {machine : Machine} (inside : machine.canFetch = true) :
    ∃ high low : UInt8,
      machine.memory[machine.counter.toNat]? = some high ∧
        machine.memory[machine.counter.toNat + 1]? = some low ∧
        machine.wordAtCounter.toNat = 256 * high.toNat + low.toNat := by
  obtain ⟨nonnegative, bound⟩ := machine.canFetch_iff.mp inside
  have firstInside : machine.counter.toNat < memorySize := by
    unfold memorySize
    omega
  have secondInside : machine.counter.toNat + 1 < memorySize := by
    unfold memorySize
    omega
  refine ⟨_, _, Bytes.getElem?_eq_read _ firstInside,
    Bytes.getElem?_eq_read _ secondInside, ?_⟩
  simp only [wordAtCounter, Word.ofBytes]
  omega

/-- A faulting cycle changes nothing, and its fault carries the address of the
instruction and, unless the fetch itself failed, the word there. -/
theorem cycle_fault_atomic
    {machine after : Machine} {keys : KeySet} {fault : Fault}
    (faulted : machine.cycle keys = .fault fault after) :
    after = machine ∧
      fault.address = some machine.counter ∧
      (fault.instruction = none ↔ fault.cause = .fetchOutside) ∧
      (fault.cause = .fetchOutside ↔
        ¬ (0 ≤ machine.counter ∧ machine.counter ≤ 4094)) ∧
      ∀ word, fault.instruction = some word →
        ∃ high low : UInt8,
          machine.memory[machine.counter.toNat]? = some high ∧
            machine.memory[machine.counter.toNat + 1]? = some low ∧
            word = 256 * high.toNat + low.toNat := by
  obtain ⟨unchanged, ⟨outside, rfl⟩ | ⟨inside, cause, refused, rfl⟩⟩ :=
    cycle_eq_fault_iff.mp faulted
  · refine ⟨unchanged, rfl, by simp [fetchFault], ?_, by simp [fetchFault]⟩
    rw [← canFetch_iff]
    simp [fetchFault, outside]
  · have otherCause : cause ≠ .fetchOutside := by
      rintro rfl
      exact refusal_ne_fetchOutside _ _ refused
    refine ⟨unchanged, rfl, by simp [otherCause], ?_, ?_⟩
    · rw [← canFetch_iff]
      simp [otherCause, inside]
    · rintro word ⟨⟩
      obtain ⟨high, low, highByte, lowByte, value⟩ :=
        wordAtCounter_bytes inside
      exact ⟨high, low, highByte, lowByte, by omega⟩

/-- A new machine whose program is a single word. -/
def oneWord (high low : UInt8) : Machine :=
  { initial (.replay ⟨[7], 0⟩) (some 1) with
    memory := initialMemory.overwrite programStart [high, low] }

theorem wordAtCounter_oneWord (high low : UInt8) :
    (oneWord high low).wordAtCounter = .ofBytes high low := by
  simp only [wordAtCounter, oneWord, initial, programStart,
    Bytes.read_overwrite]
  rfl

/-- A machine whose program stores three digits where only two bytes are
left. -/
def overreaching : Machine := { oneWord 0xF0 0x33 with index := 4094 }

theorem wordAtCounter_overreaching :
    overreaching.wordAtCounter = .ofBytes 0xF0 0x33 :=
  wordAtCounter_oneWord 0xF0 0x33

theorem cycle_overreaching :
    overreaching.cycle (.singleton 5) =
      .fault
        { cause := .accessOutside 4094 3
          address := some 0x200
          instruction := some 0xF033 } overreaching := by
  refine cycle_eq_fault_iff.mpr
    ⟨rfl, .inr ⟨by decide, .accessOutside 4094 3, ?_, ?_⟩⟩
  · rw [instructionAtCounter, wordAtCounter_overreaching]
    decide
  · rw [wordAtCounter_overreaching]
    rfl

theorem cycle_fault_atomic_overreaching :
    ∃ fault after,
      overreaching.cycle (.singleton 5) = .fault fault after ∧
        after = overreaching ∧ fault.address = some 0x200 ∧
        ∀ word, fault.instruction = some word →
          ∃ high low : UInt8,
            overreaching.memory[0x200]? = some high ∧
              overreaching.memory[0x201]? = some low ∧
              word = 256 * high.toNat + low.toNat := by
  have atomic := cycle_fault_atomic cycle_overreaching
  exact ⟨_, _, cycle_overreaching, atomic.1, atomic.2.1, atomic.2.2.2.2⟩

end Chip8.Machine
