import Chip8.Proofs.Dispatch
import Chip8.Proofs.Frame

/-!
# Storing registers and loading them back

`FX55` copies the registers up to the last one named into memory from the index
on, and `FX65` copies them back.  `Stores` and `Loads` say all that the two
words do, byte by byte.  The two round trips follow from these alone: what was
stored is loaded back, and storing what was loaded changes nothing.
-/

namespace Chip8

namespace Word

/-- The word that stores the registers up to the last one named. -/
def storing (last : Register) : Word := .ofInt (0xF055 + 256 * last.val)

/-- The word that loads the registers up to the last one named. -/
def loading (last : Register) : Word := .ofInt (0xF065 + 256 * last.val)

private theorem ofWord_storing :
    ∀ last, Instruction.ofWord (storing last) = .storeRegisters last := by
  decide

private theorem ofWord_loading :
    ∀ last, Instruction.ofWord (loading last) = .loadRegisters last := by
  decide

end Word

namespace Machine

/-- The bytes from the index on, one for each register up to the last one
named, lie in memory. -/
def HoldsRegisters (machine : Machine) (last : Register) : Prop :=
  0 ≤ machine.index ∧ machine.index + last.val + 1 ≤ 4096

/-- The registers up to the last one named have been copied into memory. -/
structure Stores (machine : Machine) (last : Register) (keys : Option KeySet)
    (stored : Machine) : Prop where
  rest :
    stored =
      { machine with
        memory := stored.memory
        index := machine.index + last.val + 1
        keypad := keys.getD machine.keypad }
  inside : ∀ number ≤ last,
    stored.memory.read (machine.index + number.val).toNat =
      machine.register number
  outside : ∀ address : Nat,
    address < machine.index ∨ machine.index + last.val < address →
    stored.memory.read address = machine.memory.read address

/-- The registers up to the last one named have been copied from memory. -/
structure Loads (machine : Machine) (last : Register) (keys : Option KeySet)
    (loaded : Machine) : Prop where
  rest :
    loaded =
      { machine with
        registers := loaded.registers
        index := machine.index + last.val + 1
        keypad := keys.getD machine.keypad }
  below : ∀ number ≤ last,
    loaded.register number =
      machine.memory.read (machine.index + number.val).toNat
  above : ∀ number, last < number →
    loaded.register number = machine.register number

theorem register_eq_read (machine : Machine) (number : Register) :
    machine.register number = machine.registers.read number.val :=
  (Bytes.read_eq_getElem machine.registers number.isLt).symm

variable {machine : Machine} {last : Register}

theorem checkRange_of_holdsRegisters (holds : machine.HoldsRegisters last) :
    checkRange machine.index (last.val + 1 : Nat) = none := by
  apply checkRange_eq_none_iff.mpr
  unfold HoldsRegisters at holds
  omega

theorem index_past_registers (index : Int) (last : Register) :
    index + ((last.val + 1 : Nat) : Int) = index + last.val + 1 := by
  omega

/-- If the registers fit at the index, storing them succeeds. -/
theorem exists_stores
    (holds : machine.HoldsRegisters last) (keys : Option KeySet) :
    ∃ stored, machine.executeWord (.storing last) keys = .done stored ∧
      machine.Stores last keys stored := by
  have accepted := checkRange_of_holdsRegisters holds
  obtain ⟨nonnegative, fits⟩ := holds
  have size : memorySize = 4096 := rfl
  rw [Opcode.executeWord_eq_execute, Word.ofWord_storing]
  refine ⟨_, execute_eq_done_iff.mpr ⟨accepted, rfl, rfl⟩, ?_, ?_, ?_⟩
  · rw [← index_past_registers]
    rfl
  · intro number atMost
    have isAtMost : number.val ≤ last.val := atMost
    rw [memory_carryOut]
    simp only [Bytes.read_overwrite, Bytes.length_slice]
    rw [if_pos (by omega), Bytes.getD_slice _ _ (by omega), register_eq_read]
    congr 1
    omega
  · intro address elsewhere
    apply read_memory_carryOut_of_unwritten
    simp only [Instruction.written]
    omega

/-- If the registers fit at the index, loading them succeeds. -/
theorem exists_loads
    (holds : machine.HoldsRegisters last) (keys : Option KeySet) :
    ∃ loaded, machine.executeWord (.loading last) keys = .done loaded ∧
      machine.Loads last keys loaded := by
  have accepted := checkRange_of_holdsRegisters holds
  obtain ⟨nonnegative, fits⟩ := holds
  rw [Opcode.executeWord_eq_execute, Word.ofWord_loading]
  refine ⟨_, execute_eq_done_iff.mpr ⟨accepted, rfl, rfl⟩, ?_, ?_, ?_⟩
  · rw [← index_past_registers]
    rfl
  · intro number atMost
    have isAtMost : number.val ≤ last.val := atMost
    have bound := number.isLt
    rw [register_eq_read]
    simp only [carryOut, moveIndex, Bytes.read_overwrite, Bytes.length_slice]
    rw [if_pos (by omega), Bytes.getD_slice _ _ (by omega)]
    congr 1
    omega
  · intro number isAbove
    have isGreater : last.val < number.val := isAbove
    rw [register_eq_read, register_eq_read]
    simp only [carryOut, moveIndex, Bytes.read_overwrite, Bytes.length_slice]
    rw [if_neg (by omega)]

/-! ## The round trips -/

/-- What has been stored is loaded back, whatever the registers hold by then. -/
theorem Stores.register_of_loads
    {stored later loaded : Machine} {keys otherKeys : Option KeySet}
    (stores : machine.Stores last keys stored)
    (loads : later.Loads last otherKeys loaded)
    (sameMemory : later.memory = stored.memory)
    (sameIndex : later.index = machine.index)
    {number : Register} (atMost : number ≤ last) :
    loaded.register number = machine.register number := by
  rw [loads.below number atMost, sameMemory, sameIndex]
  exact stores.inside number atMost

/-- Storing what has been loaded leaves the memory as it was. -/
theorem Loads.memory_of_stores
    {loaded later stored : Machine} {keys otherKeys : Option KeySet}
    (loads : machine.Loads last keys loaded)
    (stores : later.Stores last otherKeys stored)
    (sameMemory : later.memory = loaded.memory)
    (sameRegisters : later.registers = loaded.registers)
    (sameIndex : later.index = machine.index) :
    stored.memory = machine.memory := by
  have memoryKept : later.memory = machine.memory := by
    rw [sameMemory, loads.rest]
  apply Bytes.ext_read
  intro address _
  by_cases covered :
      machine.index ≤ address ∧ address ≤ machine.index + last.val
  · have bound := last.isLt
    let number : Register := ⟨((address : Int) - machine.index).toNat, by omega⟩
    have place : address = (machine.index + number.val).toNat := by
      simp only [number]
      omega
    have atMost : number ≤ last := by
      apply Fin.le_def.mpr
      simp only [number]
      omega
    have written := stores.inside number atMost
    rw [sameIndex, ← place] at written
    have read := loads.below number atMost
    rw [← place] at read
    have sameRegister : later.register number = loaded.register number := by
      simp only [register, sameRegisters]
    exact written.trans (sameRegister.trans read)
  · rw [stores.outside address (by omega), memoryKept]

/-- The registers up to the last one named survive being stored and loaded back,
whatever happens in between to anything but the memory, and the registers above
it are left as they are by then.  The other way round, the memory survives being
loaded and stored back as long as the registers are left alone.  Both words move
the index past the bytes that they copy. -/
theorem register_transfer_inverse
    {machine : Machine} {last : Register}
    (holds : machine.HoldsRegisters last) (keys : Option KeySet) :
    (∃ stored, machine.executeWord (.storing last) keys = .done stored ∧
      machine.Stores last keys stored ∧
      ∀ (later : Machine) (otherKeys : Option KeySet),
        later.memory = stored.memory → later.index = machine.index →
        ∃ loaded,
          later.executeWord (.loading last) otherKeys = .done loaded ∧
          later.Loads last otherKeys loaded ∧
          ∀ number ≤ last,
            loaded.register number = machine.register number) ∧
    ∃ loaded, machine.executeWord (.loading last) keys = .done loaded ∧
      machine.Loads last keys loaded ∧
      ∀ (later : Machine) (otherKeys : Option KeySet),
        later.memory = loaded.memory → later.registers = loaded.registers →
        later.index = machine.index →
        ∃ stored,
          later.executeWord (.storing last) otherKeys = .done stored ∧
          later.Stores last otherKeys stored ∧
          stored.memory = machine.memory := by
  have holdsLater : ∀ later : Machine, later.index = machine.index →
      later.HoldsRegisters last := by
    intro later sameIndex
    unfold HoldsRegisters at holds ⊢
    rwa [sameIndex]
  constructor
  · obtain ⟨stored, executed, stores⟩ := exists_stores holds keys
    refine ⟨stored, executed, stores, ?_⟩
    intro later otherKeys sameMemory sameIndex
    obtain ⟨loaded, executedLater, loads⟩ :=
      exists_loads (holdsLater later sameIndex) otherKeys
    refine ⟨loaded, executedLater, loads, ?_⟩
    intro number atMost
    exact stores.register_of_loads loads sameMemory sameIndex atMost
  · obtain ⟨loaded, executed, loads⟩ := exists_loads holds keys
    refine ⟨loaded, executed, loads, ?_⟩
    intro later otherKeys sameMemory sameRegisters sameIndex
    obtain ⟨stored, executedLater, stores⟩ :=
      exists_stores (holdsLater later sameIndex) otherKeys
    exact ⟨stored, executedLater, stores,
      loads.memory_of_stores stores sameMemory sameRegisters sameIndex⟩

/-- A machine whose index leaves room for exactly all registers. -/
def brimming : Machine :=
  { ((initial .absent none).setRegister 0 200).setRegister 15 7 with
    index := 4080 }

theorem register_transfer_inverse_brimming :
    brimming.HoldsRegisters 15 ∧
      ∃ stored loaded,
        brimming.executeWord (.storing 15) none = .done stored ∧
        stored.index = 4096 ∧
        ({ stored with registers := .zeros 16, index := 4080 } :
            Machine).executeWord (.loading 15) none = .done loaded ∧
        loaded.register 0 = 200 ∧ loaded.register 15 = 7 ∧
        loaded.index = 4096 := by
  have holds : brimming.HoldsRegisters 15 := ⟨by decide, by decide⟩
  obtain ⟨⟨stored, executed, stores, restores⟩, _⟩ :=
    register_transfer_inverse holds none
  obtain ⟨loaded, executedLater, loads, same⟩ :=
    restores { stored with registers := .zeros 16, index := 4080 } none rfl rfl
  have storedIndex : stored.index = 4096 := by
    rw [stores.rest]
    rfl
  have loadedIndex : loaded.index = 4096 := by
    rw [loads.rest]
    rfl
  have first : loaded.register 0 = 200 := (same 0 (by decide)).trans (by decide)
  have lastOne : loaded.register 15 = 7 :=
    (same 15 (by decide)).trans (by decide)
  exact ⟨holds, stored, loaded, executed, storedIndex, executedLater, first,
    lastOne, loadedIndex⟩

end Machine

end Chip8
