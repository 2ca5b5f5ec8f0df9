import Chip8.Proofs.Dispatch

/-!
# Exact arithmetic on two registers

`8XYN` combines two registers, and five of its operations also set the flag
register.  A byte and a flag together hold the exact result of a sum, of a
difference or of a shift, and no other byte and flag do.  The two operands and
the flag register may coincide: the operands are read before anything is
stored, and the flag is stored last.
-/

namespace Chip8

namespace Word

def combining (x y n : Fin 16) : Word :=
  .ofInt (0x8000 + 256 * x.val + 16 * y.val + n.val)

private theorem toNat_combining (x y n : Fin 16) :
    (combining x y n).toNat = 0x8000 + 256 * x.val + 16 * y.val + n.val := by
  simp only [combining, ofInt]
  omega

private theorem ofWord_combining (x y n : Fin 16) :
    Instruction.ofWord (combining x y n) =
      (Arithmetic.ofNat? n).elim .ignore fun operation =>
        .combine operation x y := by
  have value := toNat_combining x y n
  have isGroup : (combining x y n).group = 8 := by
    apply Fin.ext
    simp only [group, value]
    omega
  have isX : (combining x y n).x = x := by
    apply Fin.ext
    simp only [Word.x, value]
    omega
  have isY : (combining x y n).y = y := by
    apply Fin.ext
    simp only [Word.y, value]
    omega
  have isN : (combining x y n).n = n := by
    apply Fin.ext
    simp only [Word.n, value]
    omega
  rw [Instruction.ofWord, isGroup]
  change Instruction.arithmetic _ = _
  rw [Instruction.arithmetic, isX, isY, isN]
  cases Arithmetic.ofNat? n <;> rfl

end Word

namespace Arithmetic

/-! ## Numbers and operations -/

def number : Arithmetic → Nat
  | copy => 0x0
  | or => 0x1
  | and => 0x2
  | xor => 0x3
  | add => 0x4
  | subtract => 0x5
  | shiftRight => 0x6
  | subtractFrom => 0x7
  | shiftLeft => 0xE

private theorem eq_number_of_ofNat?
    {value : Nat} {operation : Arithmetic}
    (isOperation : ofNat? value = some operation) :
    value = operation.number := by
  unfold ofNat? at isOperation
  split at isOperation <;> cases isOperation <;> rfl

private theorem ofNat?_number (operation : Arithmetic) :
    ofNat? operation.number = some operation := by
  cases operation <;> rfl

/-- The numbers of the operations that set the flag. -/
def flagging : List Nat := [0x4, 0x5, 0x6, 0x7, 0xE]

def assigned : List Nat := [0x0, 0x1, 0x2, 0x3] ++ flagging

/-- The assigned numbers are those of the operations. -/
theorem mem_assigned_iff {value : Nat} :
    value ∈ assigned ↔ ∃ operation : Arithmetic, value = operation.number := by
  constructor
  · intro member
    simp only [assigned, flagging, List.cons_append, List.nil_append,
      List.mem_cons, List.not_mem_nil, or_false] at member
    rcases member with rfl | rfl | rfl | rfl | rfl | rfl | rfl | rfl | rfl
    · exact ⟨copy, rfl⟩
    · exact ⟨or, rfl⟩
    · exact ⟨and, rfl⟩
    · exact ⟨xor, rfl⟩
    · exact ⟨add, rfl⟩
    · exact ⟨subtract, rfl⟩
    · exact ⟨shiftRight, rfl⟩
    · exact ⟨subtractFrom, rfl⟩
    · exact ⟨shiftLeft, rfl⟩
  · rintro ⟨operation, rfl⟩
    cases operation <;> decide

theorem flag?_eq_none_iff {operation : Arithmetic} {first second : UInt8} :
    operation.flag? first second = none ↔ operation.number ∉ flagging := by
  cases operation <;> simp [flag?, number, flagging]

/-! ## What an operation computes -/

/-- The result of an operation that leaves the flag alone. -/
def IsPlain (number first second result : Nat) : Prop :=
  match number with
  | 0x0 => result = second
  | 0x1 => result = first ||| second
  | 0x2 => result = first &&& second
  | 0x3 => result = first ^^^ second
  | _ => False

/-- The equation between the operands, the result and the flag of an operation
that sets the flag.  The flag of a difference is one unless it borrows. -/
def Balances (number first second result flag : Nat) : Prop :=
  match number with
  | 0x4 => result + 256 * flag = first + second
  | 0x5 => result + second = first + 256 * (1 - flag)
  | 0x6 => 2 * result + flag = second
  | 0x7 => result + first = second + 256 * (1 - flag)
  | 0xE => result + 256 * flag = 2 * second
  | _ => False

/-- A byte and a flag that together hold the exact result. -/
structure IsExact (number first second result flag : Nat) : Prop where
  isByte : result < 256
  isFlag : flag ≤ 1
  balances : Balances number first second result flag

theorem IsExact.unique
    {number first second result flag otherResult otherFlag : Nat}
    (isExact : IsExact number first second result flag)
    (other : IsExact number first second otherResult otherFlag) :
    otherResult = result ∧ otherFlag = flag := by
  obtain ⟨isByte, isFlag, balances⟩ := isExact
  obtain ⟨otherIsByte, otherIsFlag, otherBalances⟩ := other
  unfold Balances at balances otherBalances
  split at balances <;> simp only [] at otherBalances <;> omega

theorem toNat_flagByte (flag : Bool) :
    (flagByte flag).toNat = if flag then 1 else 0 := by
  cases flag <;> rfl

private theorem isPlain_result
    {operation : Arithmetic} {first second : UInt8}
    (flagless : operation.flag? first second = none) :
    IsPlain operation.number first.toNat second.toNat
      (operation.result first second).toNat := by
  cases operation with
  | copy => rfl
  | or => exact UInt8.toNat_or first second
  | and => exact UInt8.toNat_and first second
  | xor => exact UInt8.toNat_xor first second
  | add | subtract | shiftRight | subtractFrom | shiftLeft => contradiction

private theorem balances_result
    {operation : Arithmetic} {first second : UInt8} {flag : Bool}
    (isFlag : operation.flag? first second = some flag) :
    Balances operation.number first.toNat second.toNat
      (operation.result first second).toNat (flagByte flag).toNat := by
  have firstBound := first.toNat_lt
  have secondBound := second.toNat_lt
  rw [toNat_flagByte]
  cases operation with
  | copy | or | and | xor => contradiction
  | add =>
      cases isFlag
      simp only [number, Balances, result, UInt8.toNat_add, decide_eq_true_eq]
      split <;> omega
  | subtract | subtractFrom =>
      cases isFlag
      simp only [number, Balances, result, UInt8.toNat_sub, decide_eq_true_eq,
        UInt8.le_iff_toNat_le]
      split <;> omega
  | shiftRight =>
      cases isFlag
      simp only [number, Balances, result, Opcode.shiftRight_eq_ofNat,
        UInt8.toNat_ofNat', decide_eq_true_eq]
      split <;> omega
  | shiftLeft =>
      cases isFlag
      simp only [number, Balances, result, Opcode.shiftLeft_eq_ofNat,
        UInt8.toNat_ofNat', decide_eq_true_eq]
      split <;> omega

private theorem isExact_result
    {operation : Arithmetic} {first second : UInt8} {flag : Bool}
    (isFlag : operation.flag? first second = some flag) :
    IsExact operation.number first.toNat second.toNat
      (operation.result first second).toNat (flagByte flag).toNat where
  isByte := UInt8.toNat_lt _
  isFlag := by
    rw [toNat_flagByte]
    split <;> omega
  balances := balances_result isFlag

end Arithmetic

namespace Machine

/-! ## The registers after an operation -/

private theorem register_combine_of_flagless
    {machine : Machine} {operation : Arithmetic} {first second : Register}
    (flagless : operation.flag? (machine.register first)
      (machine.register second) = none)
    (number : Register) :
    (machine.combine operation first second).register number =
      if number = first then
        operation.result (machine.register first) (machine.register second)
      else machine.register number := by
  simp only [combine, flagless, register_setRegister]

/-- The flag is stored after the result, so it stays where both go to the same
register. -/
theorem register_combine_of_flag
    {machine : Machine} {operation : Arithmetic} {first second : Register}
    {flag : Bool}
    (isFlag : operation.flag? (machine.register first)
      (machine.register second) = some flag)
    (number : Register) :
    (machine.combine operation first second).register number =
      if number = 0xF then Arithmetic.flagByte flag
      else if number = first then
        operation.result (machine.register first) (machine.register second)
      else machine.register number := by
  simp only [combine, isFlag, setFlag, register_setRegister,
    Arithmetic.flagByte, flagRegister]

/-! ## The words -/

/-- What an operation leaves in the registers.  The operands are the bytes of
the registers before it, whichever of the registers coincide. -/
structure Computes (machine : Machine) (x y n : Fin 16) (next : Machine) :
    Prop where
  flagging : n.val ∈ Arithmetic.flagging → ∃ result flag,
    Arithmetic.IsExact n (machine.register x).toNat (machine.register y).toNat
      result flag ∧
    (∀ otherResult otherFlag,
      Arithmetic.IsExact n (machine.register x).toNat
        (machine.register y).toNat otherResult otherFlag →
      otherResult = result ∧ otherFlag = flag) ∧
    (next.register 0xF).toNat = flag ∧
    (x ≠ 0xF → (next.register x).toNat = result)
  plain : n.val ≤ 0x3 →
    Arithmetic.IsPlain n (machine.register x).toNat (machine.register y).toNat
      (next.register x).toNat
  elsewhere : ∀ other, other ≠ x →
    (n.val ∈ Arithmetic.flagging → other ≠ 0xF) →
    next.register other = machine.register other
  unassigned : n.val ∉ Arithmetic.assigned → next.registers = machine.registers

private theorem computes_combine
    (machine : Machine) (x y : Register) {n : Fin 16} {operation : Arithmetic}
    (isNumber : n.val = operation.number) :
    machine.Computes x y n (machine.combine operation x y) := by
  have isAssigned : n.val ∈ Arithmetic.assigned :=
    Arithmetic.mem_assigned_iff.mpr ⟨operation, isNumber⟩
  cases isFlag :
      operation.flag? (machine.register x) (machine.register y) with
  | none =>
      have notFlagging : n.val ∉ Arithmetic.flagging := by
        rw [isNumber]
        exact Arithmetic.flag?_eq_none_iff.mp isFlag
      have register := register_combine_of_flagless isFlag
      refine ⟨fun member => absurd member notFlagging, ?_, ?_,
        fun missing => absurd isAssigned missing⟩
      · intro _
        rw [register x, if_pos rfl, isNumber]
        exact Arithmetic.isPlain_result isFlag
      · intro other notFirst _
        rw [register other, if_neg notFirst]
  | some flag =>
      have isFlagging : n.val ∈ Arithmetic.flagging := by
        rw [isNumber]
        by_contra missing
        rw [Arithmetic.flag?_eq_none_iff.mpr missing] at isFlag
        contradiction
      have register := register_combine_of_flag isFlag
      have isExact := Arithmetic.isExact_result isFlag
      rw [← isNumber] at isExact
      refine ⟨fun _ => ⟨_, _, isExact, fun _ _ other => isExact.unique other, ?_, ?_⟩,
        ?_, ?_, fun missing => absurd isAssigned missing⟩
      · -- The flag of the old operands, also where the result went there first.
        rw [register 0xF, if_pos rfl]
      · intro notFlag
        rw [register x, if_neg notFlag, if_pos rfl]
      · intro small
        simp only [Arithmetic.flagging, List.mem_cons, List.not_mem_nil,
          or_false] at isFlagging
        omega
      · intro other notFirst notFlag
        rw [register other, if_neg (notFlag isFlagging), if_neg notFirst]

/-- Every word `8XYN` is executed to the end and changes nothing but
registers.  With `N` one of `4`, `5`, `6`, `7` and `E` the flag and, outside the
flag register, the result are the ones that hold the exact sum, difference or
shift of the old operands.  With `N` at most `3` the result is the second operand
or a combination bit by bit.  No other register changes. -/
theorem executeWord_combining_exact
    (machine : Machine) (x y n : Fin 16) (keys : Option KeySet) :
    ∃ next, machine.executeWord (.combining x y n) keys = .done next ∧
      next =
        { machine with
          registers := next.registers
          keypad := keys.getD machine.keypad } ∧
      machine.Computes x y n next := by
  rw [Opcode.executeWord_eq_execute, Word.ofWord_combining]
  cases isOperation : Arithmetic.ofNat? n with
  | none =>
      have isUnassigned : n.val ∉ Arithmetic.assigned := by
        intro member
        obtain ⟨operation, isNumber⟩ := Arithmetic.mem_assigned_iff.mp member
        rw [isNumber, Arithmetic.ofNat?_number] at isOperation
        contradiction
      refine ⟨_, rfl, rfl, ?_, ?_, fun _ _ _ => rfl, fun _ => rfl⟩
      · intro isFlagging
        exact absurd (List.mem_append_right _ isFlagging) isUnassigned
      · intro small
        apply absurd _ isUnassigned
        have isSmall : n.val = 0 ∨ n.val = 1 ∨ n.val = 2 ∨ n.val = 3 := by omega
        simp only [Arithmetic.assigned, List.cons_append, List.mem_cons]
        tauto
  | some operation =>
      have isNumber := Arithmetic.eq_number_of_ofNat? isOperation
      -- The new keys do not reach the registers.
      obtain ⟨flagging, plain, elsewhere, unassigned⟩ :=
        computes_combine { machine with keypad := keys.getD machine.keypad }
          x y isNumber
      exact ⟨_, rfl, combine_eq _ operation x y, flagging, plain, elsewhere,
        unassigned⟩

end Machine

end Chip8
