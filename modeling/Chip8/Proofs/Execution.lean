import Chip8.Machine.Cycle

/-!
# How an instruction ends

Whether an instruction is refused, meets an obstacle or is carried out can be
read off the machine before anything is changed.  This module states the two
decisions and the effect on their own, as `Machine.refusal`,
`Machine.obstacle` and `Machine.carryOut`, and shows that `Machine.execute` is
made of them: a refused instruction is a fault that leaves the machine alone,
an obstacle is a failure, and everything else is done.  The endings of
`Machine.cycle` follow.
-/

namespace Chip8

namespace Instruction

/-- The number of bytes from the index on that an instruction reads or
writes. -/
def reach : Instruction → Nat
  | draw _ _ height => height
  | storeDecimal _ => 3
  | storeRegisters last => last + 1
  | loadRegisters last => last + 1
  | _ => 0

end Instruction

namespace Machine

/-- The cause for which an instruction is refused, if it is. -/
def refusal (machine : Machine) : Instruction → Option Fault.Cause
  | .returnToCaller =>
      if machine.stack = [] then some .stackEmpty else none
  | .call _ =>
      (machine.stackLimit.filter fun limit : Int =>
        limit ≤ machine.stack.length).map .stackFull
  | instruction => checkRange machine.index instruction.reach

/-- The failure of storing an integer in a register. -/
def byteFailure (value : Int) : Option Failure :=
  if 0 ≤ value ∧ value ≤ 255 then none else some (.notAByte value)

/-- What around the machine keeps an instruction from being carried out. -/
def obstacle (machine : Machine) : Instruction → Option Failure
  | .readDelay _ => byteFailure machine.delayTimer
  | .awaitKey _ => machine.keypad.min?.bind byteFailure
  | .randomByte _ _ =>
      if machine.random.next? = none then some .unsupported else none
  | _ => none

/-- What an instruction does when nothing keeps it from being carried out. -/
def carryOut (machine : Machine) : Instruction → Machine
  | .ignore => machine
  | .clearScreen => { machine with display := ∅ }
  | .returnToCaller =>
      { machine with
        counter := machine.stack.headD machine.counter
        stack := machine.stack.tail }
  | .jump target => { machine with counter := target }
  | .call target =>
      { machine with
        counter := target
        stack := machine.counter % 65536 :: machine.stack }
  | .skip condition wanted =>
      { machine with
        counter :=
          if machine.meets condition = wanted then machine.counter + 2
          else machine.counter }
  | .setRegister register value => machine.setRegister register value
  | .addConstant register value =>
      machine.setRegister register (machine.register register + value)
  | .combine operation first second =>
      { machine with
        registers := (machine.combine operation first second).registers }
  | .setIndex target => { machine with index := target }
  | .jumpOffset target =>
      { machine with counter := target + (machine.register 0).toNat }
  | .randomByte register mask =>
      { machine with
        registers := (machine.setRegister register
          ((machine.random.next?.map Prod.fst).getD 0 &&& mask)).registers
        random := (machine.random.next?.map Prod.snd).getD machine.random }
  | .draw column row height => machine.drawAtIndex column row height
  | .readDelay register =>
      machine.setRegister register (UInt8.ofNat machine.delayTimer.toNat)
  | .awaitKey register =>
      { machine with
        registers := machine.keypad.min?.elim machine.registers fun key =>
          (machine.setRegister register (UInt8.ofNat key.toNat)).registers
        counter :=
          if machine.keypad.min? = none then machine.counter - 2
          else machine.counter }
  | .setDelay register =>
      { machine with delayTimer := (machine.register register).toNat }
  | .setSound register =>
      { machine with soundTimer := (machine.register register).toNat }
  | .addToIndex register =>
      let sum := machine.index + (machine.register register).toNat
      { machine with index := sum % 65536 }.setFlag (65535 < sum)
  | .pointAtGlyph register =>
      { machine with
        index := Font.address ((machine.register register).toNat % 16) }
  | .storeDecimal register =>
      machine.storeAtIndex (decimalDigits (machine.register register))
  | .storeRegisters last =>
      (machine.storeAtIndex
        (machine.registers.slice 0 (last + 1))).moveIndex (last + 1)
  | .loadRegisters last =>
      { machine with
        registers := machine.registers.overwrite 0
          (machine.memory.slice machine.index.toNat (last + 1)) }.moveIndex
            (last + 1)

/-- The outcome that a decision to refuse, an obstacle and an effect make. -/
def ending (machine : Machine) :
    Option Fault.Cause → Option Failure → Machine → Outcome
  | some cause, _, _ => .fault { cause := cause } machine
  | none, some failure, _ => .failure failure machine
  | none, none, next => .done next

private theorem withRange_eq
    (machine : Machine) (length : Nat) (next : Machine → Machine) :
    machine.withRange length next =
      machine.ending (checkRange machine.index length) none (next machine) := by
  unfold withRange
  cases checkRange machine.index length <;> rfl

theorem storeInteger_eq
    (machine : Machine) (register : Register) (value : Int) :
    machine.storeInteger register value =
      machine.ending none (byteFailure value)
        (machine.setRegister register (UInt8.ofNat value.toNat)) := by
  unfold storeInteger byteFailure
  by_cases isByte : 0 ≤ value ∧ value ≤ 255
  · rw [if_pos isByte, if_pos isByte]
    rfl
  · rw [if_neg isByte, if_neg isByte]
    rfl

theorem combine_eq
    (machine : Machine) (operation : Arithmetic) (first second : Register) :
    machine.combine operation first second =
      { machine with
        registers := (machine.combine operation first second).registers } := by
  cases flagShape :
      operation.flag? (machine.register first) (machine.register second) <;>
    simp [combine, flagShape, setFlag, setRegister]

/-! ## Registers -/

theorem register_setRegister
    (machine : Machine) (number other : Register) (value : UInt8) :
    (machine.setRegister number value).register other =
      if other = number then value else machine.register other := by
  simp only [setRegister, register, Fin.getElem_fin, Vector.getElem_set,
    Fin.ext_iff, eq_comm]

theorem register_setFlag_of_ne
    (machine : Machine) (flag : Bool) {number : Register}
    (notFlag : number ≠ 0xF) :
    (machine.setFlag flag).register number = machine.register number := by
  rw [setFlag, register_setRegister]
  exact if_neg notFlag

theorem register_setFlag_flag
    (machine : Machine) (flag : Bool) :
    (machine.setFlag flag).register 0xF = if flag then 1 else 0 := by
  rw [setFlag, register_setRegister]
  exact if_pos rfl

theorem register_setFlag_eq_one_iff
    (machine : Machine) (flag : Bool) :
    (machine.setFlag flag).register 0xF = 1 ↔ flag = true := by
  rw [register_setFlag_flag]
  cases flag <;> decide

theorem register_setFlag_le_one
    (machine : Machine) (flag : Bool) :
    (machine.setFlag flag).register 0xF ≤ 1 := by
  rw [register_setFlag_flag]
  cases flag <;> decide

/-! ## When an instruction is refused -/

theorem inMemory_iff {start length : Int} :
    inMemory start length = true ↔
      length ≤ 0 ∨ (0 ≤ start ∧ start + length ≤ 4096) := by
  simp only [inMemory, Bool.or_eq_true, Bool.and_eq_true, decide_eq_true_eq]
  unfold memorySize
  omega

theorem checkRange_eq_none_iff {start length : Int} :
    checkRange start length = none ↔
      length ≤ 0 ∨ (0 ≤ start ∧ start + length ≤ 4096) := by
  rw [← inMemory_iff]
  simp [checkRange]

private theorem checkRange_eq_some_iff
    {start length : Int} {cause : Fault.Cause} :
    checkRange start length = some cause ↔
      (0 < length ∧ (start < 0 ∨ 4096 < start + length)) ∧
        cause = .accessOutside start length := by
  unfold checkRange
  split
  · rename_i inside
    rw [inMemory_iff] at inside
    simp only [reduceCtorEq, false_iff]
    omega
  · rename_i outside
    rw [inMemory_iff] at outside
    have isOutside : 0 < length ∧ (start < 0 ∨ 4096 < start + length) := by
      omega
    simp [isOutside, eq_comm]

/-- An empty range is never refused. -/
@[simp]
theorem checkRange_zero (start : Int) :
    checkRange start 0 = none :=
  checkRange_eq_none_iff.mpr (.inl (Int.le_refl 0))

/-- An instruction is refused for one of three reasons: a return without a call,
a call beyond the limit, or an access outside the memory. -/
theorem refusal_eq_some_iff
    {machine : Machine} {instruction : Instruction} {cause : Fault.Cause} :
    machine.refusal instruction = some cause ↔
      (instruction = .returnToCaller ∧ machine.stack = [] ∧
        cause = .stackEmpty) ∨
      (∃ target limit, instruction = .call target ∧
        machine.stackLimit = some limit ∧ limit ≤ machine.stack.length ∧
        cause = .stackFull limit) ∨
      ((0 < instruction.reach ∧
        (machine.index < 0 ∨ 4096 < machine.index + instruction.reach)) ∧
        cause = .accessOutside machine.index instruction.reach) := by
  cases instruction with
  | returnToCaller =>
      by_cases noCaller : machine.stack = [] <;>
        simp [refusal, Instruction.reach, noCaller, eq_comm]
  | call target =>
      cases limitShape : machine.stackLimit with
      | none => simp [refusal, Instruction.reach, limitShape]
      | some limit =>
          by_cases full : limit ≤ machine.stack.length <;>
            simp [refusal, Instruction.reach, limitShape, Option.filter, full,
              eq_comm]
  | _ =>
      simp only [refusal, checkRange_eq_some_iff, reduceCtorEq, false_and,
        exists_false, false_or, Int.natCast_pos]

/-- Whether an instruction is refused depends on the index, the height of the
stack and its limit only. -/
theorem refusal_congr
    {first second : Machine}
    (sameIndex : first.index = second.index)
    (sameHeight : first.stack.length = second.stack.length)
    (sameLimit : first.stackLimit = second.stackLimit)
    (instruction : Instruction) :
    first.refusal instruction = second.refusal instruction := by
  cases instruction with
  | returnToCaller =>
      have sameEmpty : first.stack = [] ↔ second.stack = [] := by
        rw [← List.length_eq_zero_iff, ← List.length_eq_zero_iff, sameHeight]
      simp only [refusal, sameEmpty]
  | call target => simp only [refusal, sameHeight, sameLimit]
  | _ => simp only [refusal, sameIndex]

/-! ## The three endings of an instruction -/

/-- An instruction is refused, meets an obstacle or is carried out, and the
two decisions say which. -/
theorem execute_eq (machine : Machine) (instruction : Instruction) :
    machine.execute instruction =
      machine.ending (machine.refusal instruction)
        (machine.obstacle instruction) (machine.carryOut instruction) := by
  cases instruction with
  | returnToCaller =>
      cases stackShape : machine.stack <;>
        simp [execute, pop?, refusal, obstacle, carryOut, ending, stackShape]
  | call target =>
      cases limitShape : machine.stackLimit with
      | none =>
          simp [execute, push, refusal, obstacle, carryOut, ending, limitShape]
      | some limit =>
          by_cases full : limit ≤ machine.stack.length <;>
            simp [execute, push, refusal, obstacle, carryOut, ending,
              limitShape, full, Option.filter]
  | skip condition wanted =>
      by_cases met : machine.meets condition = wanted <;>
        simp [execute, refusal, Instruction.reach, obstacle, carryOut, ending,
          skipNext, met]
  | combine operation first second =>
      simp only [execute, refusal, Instruction.reach, Int.natCast_zero,
        checkRange_zero, obstacle, ending, carryOut]
      rw [← combine_eq]
  | randomByte register mask =>
      cases delivery : machine.random.next? <;>
        simp [execute, refusal, Instruction.reach, obstacle, carryOut, ending,
          setRegister, delivery]
  | readDelay register => exact storeInteger_eq _ _ _
  | awaitKey register =>
      cases least : machine.keypad.min? with
      | none =>
          simp [execute, refusal, Instruction.reach, obstacle, carryOut,
            ending, least]
      | some key =>
          simpa [execute, refusal, Instruction.reach, obstacle, carryOut,
            setRegister, least] using storeInteger_eq machine register key
  | draw _ _ _ | storeDecimal _ | storeRegisters _ | loadRegisters _ =>
      rw [execute, withRange_eq]
      rfl
  | _ =>
      simp [execute, refusal, Instruction.reach, obstacle, carryOut, ending]

/-- A fault of an instruction is a refusal, and it leaves the machine as it was.
-/
theorem execute_eq_fault_iff
    {machine after : Machine} {instruction : Instruction} {fault : Fault} :
    machine.execute instruction = .fault fault after ↔
      (∃ cause, machine.refusal instruction = some cause ∧
        fault = { cause := cause }) ∧ after = machine := by
  rw [execute_eq]
  cases machine.refusal instruction with
  | some cause =>
      constructor
      · rintro ⟨⟩
        exact ⟨⟨cause, rfl, rfl⟩, rfl⟩
      · rintro ⟨⟨_, ⟨⟩, rfl⟩, rfl⟩
        rfl
  | none => cases machine.obstacle instruction <;> simp [ending]

theorem execute_eq_failure_iff
    {machine after : Machine} {instruction : Instruction} {failure : Failure} :
    machine.execute instruction = .failure failure after ↔
      machine.refusal instruction = none ∧
        machine.obstacle instruction = some failure ∧ after = machine := by
  rw [execute_eq]
  cases machine.refusal instruction with
  | some cause => simp [ending]
  | none =>
      cases machine.obstacle instruction <;> simp [ending, eq_comm]

theorem execute_eq_done_iff
    {machine next : Machine} {instruction : Instruction} :
    machine.execute instruction = .done next ↔
      machine.refusal instruction = none ∧
        machine.obstacle instruction = none ∧
        next = machine.carryOut instruction := by
  rw [execute_eq]
  cases machine.refusal instruction with
  | some cause => simp [ending]
  | none =>
      cases machine.obstacle instruction <;> simp [ending, eq_comm]

/-! ## The endings of a cycle -/

def instructionAtCounter (machine : Machine) : Instruction :=
  .ofWord machine.wordAtCounter

/-- The machine that an instruction works on: the counter is past the
instruction and the given keys are down. -/
def ready (machine : Machine) (keys : KeySet) : Machine :=
  machine.stepOver.holding keys

theorem canFetch_iff (machine : Machine) :
    machine.canFetch = true ↔
      0 ≤ machine.counter ∧ machine.counter ≤ 4094 := by
  simp only [canFetch, Bool.and_eq_true, decide_eq_true_eq]
  unfold memorySize
  omega

theorem cycle_eq_done_iff
    {machine next : Machine} {keys : KeySet} :
    machine.cycle keys = .done next ↔
      machine.canFetch = true ∧
        (machine.ready keys).execute machine.instructionAtCounter =
          .done next := by
  by_cases inside : machine.canFetch = true
  · simp only [cycle, inside, if_true, executeWord, ready,
      instructionAtCounter, true_and]
    cases (machine.stepOver.holding keys).execute
      (.ofWord machine.wordAtCounter) <;> simp
  · simp [cycle, inside]

/-- A fault of a cycle comes from the fetch or from a refused instruction, and
in both cases the machine is the one before the cycle. -/
theorem cycle_eq_fault_iff
    {machine after : Machine} {keys : KeySet} {fault : Fault} :
    machine.cycle keys = .fault fault after ↔
      after = machine ∧
        (machine.canFetch = false ∧ fault = machine.fetchFault ∨
          machine.canFetch = true ∧
            ∃ cause,
              (machine.ready keys).refusal machine.instructionAtCounter =
                some cause ∧
              fault =
                { cause := cause
                  address := some machine.counter
                  instruction := some machine.wordAtCounter.toNat }) := by
  by_cases inside : machine.canFetch = true
  · simp only [cycle, inside, if_true, executeWord, ready,
      instructionAtCounter, Bool.true_eq_false, false_and, false_or, true_and]
    constructor
    · intro broken
      cases ended :
          (machine.stepOver.holding keys).execute
            (.ofWord machine.wordAtCounter) with
      | done next => simp [ended] at broken
      | failure failure left => simp [ended] at broken
      | fault raised left =>
          obtain ⟨⟨cause, refused, rfl⟩, rfl⟩ := execute_eq_fault_iff.mp ended
          rw [ended] at broken
          cases broken
          exact ⟨rfl, cause, refused, rfl⟩
    · intro refusedWith
      obtain ⟨rfl, cause, refused, rfl⟩ := refusedWith
      rw [execute_eq_fault_iff.mpr ⟨⟨cause, refused, rfl⟩, rfl⟩]
      rfl
  · have outside : machine.canFetch = false := by simpa using inside
    simp only [cycle, outside, Bool.false_eq_true, if_false,
      Outcome.fault.injEq, false_and, or_false, true_and]
    constructor
    · intro same
      exact ⟨same.2.symm, same.1.symm⟩
    · intro same
      exact ⟨same.2.symm, same.1.symm⟩

theorem cycle_eq_failure_iff
    {machine after : Machine} {keys : KeySet} {failure : Failure} :
    machine.cycle keys = .failure failure after ↔
      machine.canFetch = true ∧
        (machine.ready keys).execute machine.instructionAtCounter =
          .failure failure after := by
  by_cases inside : machine.canFetch = true
  · simp only [cycle, inside, if_true, executeWord, ready,
      instructionAtCounter, true_and]
    cases (machine.stepOver.holding keys).execute
      (.ofWord machine.wordAtCounter) <;> simp
  · simp [cycle, inside]

/-- A fault depends on the memory, the counter, the index, the height of the
stack and its limit only. -/
theorem cycle_fault_congr
    {first second : Machine} {keys : KeySet} {fault : Fault}
    (sameMemory : first.memory = second.memory)
    (sameCounter : first.counter = second.counter)
    (sameIndex : first.index = second.index)
    (sameHeight : first.stack.length = second.stack.length)
    (sameLimit : first.stackLimit = second.stackLimit)
    (faulted : first.cycle keys = .fault fault first) (otherKeys : KeySet) :
    second.cycle otherKeys = .fault fault second := by
  have sameFetch : second.canFetch = first.canFetch := by
    simp only [canFetch, sameCounter]
  have sameWord : second.wordAtCounter = first.wordAtCounter := by
    simp only [wordAtCounter, sameMemory, sameCounter]
  obtain ⟨_, source⟩ := cycle_eq_fault_iff.mp faulted
  refine cycle_eq_fault_iff.mpr ⟨rfl, ?_⟩
  rcases source with ⟨outside, isFault⟩ | ⟨inside, cause, refused, isFault⟩
  · have sameFault : first.fetchFault = second.fetchFault := by
      simp only [fetchFault, sameCounter]
    exact .inl ⟨sameFetch.trans outside, isFault.trans sameFault⟩
  · have sameRefusal :
        (first.ready keys).refusal first.instructionAtCounter =
          (second.ready otherKeys).refusal first.instructionAtCounter :=
      refusal_congr sameIndex sameHeight sameLimit _
    refine .inr ⟨sameFetch.trans inside, cause, ?_, ?_⟩
    · rw [instructionAtCounter, sameWord]
      exact sameRefusal.symm.trans refused
    · rw [isFault, sameCounter, sameWord]

end Machine

end Chip8
