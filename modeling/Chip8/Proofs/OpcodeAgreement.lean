import Chip8.Proofs.Bytes
import Chip8.Proofs.Execution
import Chip8.Proofs.Masks
import Chip8.Proofs.OpcodeTable
import Chip8.Proofs.SortedSet

/-!
# The rows of the opcode table and the instructions

Each row of the table is compared with the instruction that its words are read
as: a masked comparison fixes some digits of the word, these digits decide the
instruction, and the instruction is carried out with the effect of the row.
-/

namespace Chip8

namespace Opcode

/-! ## Rows and instructions -/

/-- Wherever a word of the row is executed to the end, the next machine is the
one that the row says. -/
def Agrees (row : Opcode) : Prop :=
  ∀ (word : Word) (machine next : Machine), row.Matches word.toNat →
    machine.execute (.ofWord word) = .done next →
    next = row.effect word machine

/-- Instructions are carried out with the given effect, where nothing keeps
them from being carried out. -/
def HasEffect (meaning : Word → Instruction)
    (effect : Word → Machine → Machine) : Prop :=
  ∀ (word : Word) (machine : Machine),
    machine.refusal (meaning word) = none →
    machine.obstacle (meaning word) = none →
    machine.carryOut (meaning word) = effect word machine

theorem agrees_of_meaning
    {row : Opcode} (meaning : Word → Instruction)
    (decodes : ∀ word, row.Matches word.toNat →
      Instruction.ofWord word = meaning word)
    (hasEffect : HasEffect meaning row.effect) :
    row.Agrees := by
  intro word machine next hit isDone
  rw [decodes word hit] at isDone
  obtain ⟨accepted, free, isNext⟩ := Machine.execute_eq_done_iff.mp isDone
  rw [isNext]
  exact hasEffect word machine accepted free

section Masks

variable {effect : Word → Machine → Machine} (meaning : Word → Instruction)

/-- A row with a full mask agrees with the machine if its only word does. -/
theorem agrees_of_word
    (value : Word)
    (decodes : Instruction.ofWord value = meaning value)
    (hasEffect : HasEffect meaning effect) :
    Agrees ⟨0xFFFF, value.toNat, effect⟩ := by
  apply agrees_of_meaning meaning _ hasEffect
  intro word hit
  obtain ⟨_, sameValue⟩ := word.and_full_eq_iff.mp hit
  have same : word = value := by
    cases word
    cases value
    simpa using sameValue
  rw [same]
  exact decodes

theorem agrees_of_group
    (digit : Fin 16)
    (decodes : ∀ word, word.group = digit →
      Instruction.ofWord word = meaning word)
    (hasEffect : HasEffect meaning effect) :
    Agrees ⟨0xF000, 4096 * digit.val, effect⟩ := by
  apply agrees_of_meaning meaning _ hasEffect
  intro word hit
  have masked : word.toNat &&& 0xF000 = 4096 * digit.val := hit
  have isGroup := (word.and_group_eq_iff (by omega)).mp masked
  apply decodes
  omega

theorem agrees_of_group_digit
    (digit last : Fin 16)
    (decodes : ∀ word, word.group = digit → word.n = last →
      Instruction.ofWord word = meaning word)
    (hasEffect : HasEffect meaning effect) :
    Agrees ⟨0xF00F, 4096 * digit.val + last.val, effect⟩ := by
  apply agrees_of_meaning meaning _ hasEffect
  intro word hit
  have masked : word.toNat &&& 0xF00F = 4096 * digit.val + last.val := hit
  obtain ⟨isGroup, isLast⟩ := (word.and_group_digit_eq_iff (by omega)).mp masked
  apply decodes <;> omega

theorem agrees_of_group_byte
    (digit : Fin 16) (byte : UInt8)
    (decodes : ∀ word, word.group = digit → word.nn = byte.toNat →
      Instruction.ofWord word = meaning word)
    (hasEffect : HasEffect meaning effect) :
    Agrees ⟨0xF0FF, 4096 * digit.val + byte.toNat, effect⟩ := by
  apply agrees_of_meaning meaning _ hasEffect
  intro word hit
  have masked : word.toNat &&& 0xF0FF = 4096 * digit.val + byte.toNat := hit
  have byteBound := byte.toNat_lt
  obtain ⟨isGroup, isByte⟩ := (word.and_group_byte_eq_iff (by omega)).mp masked
  apply decodes <;> omega

theorem agrees_of_keyboard
    (byte : UInt8)
    (decodes : ∀ word, word.nn = byte.toNat →
      Instruction.keyboard word = meaning word)
    (hasEffect : HasEffect meaning effect) :
    Agrees ⟨0xF0FF, 0xE000 + byte.toNat, effect⟩ := by
  apply agrees_of_group_byte meaning 0xE byte _ hasEffect
  intro word isGroup isByte
  rw [Instruction.ofWord, isGroup]
  exact decodes word isByte

theorem agrees_of_miscellaneous
    (byte : UInt8)
    (decodes : ∀ word, word.nn = byte.toNat →
      Instruction.miscellaneous word = meaning word)
    (hasEffect : HasEffect meaning effect) :
    Agrees ⟨0xF0FF, 0xF000 + byte.toNat, effect⟩ := by
  apply agrees_of_group_byte meaning 0xF byte _ hasEffect
  intro word isGroup isByte
  rw [Instruction.ofWord, isGroup]
  exact decodes word isByte

end Masks

/-! ## Control -/

private theorem controlRows_agree : ∀ row ∈ controlRows, row.Agrees := by
  simp only [controlRows, List.forall_mem_cons]
  refine ⟨?clearScreen, ?returnToCaller, ?jump, ?call, ?jumpOffset, by simp⟩
  case clearScreen =>
    exact agrees_of_word (fun _ => .clearScreen) ⟨0x00E0, by decide⟩ rfl
      fun _ _ _ _ => rfl
  case returnToCaller =>
    exact agrees_of_word (fun _ => .returnToCaller) ⟨0x00EE, by decide⟩ rfl
      fun _ _ _ _ => rfl
  case jump =>
    apply agrees_of_group (fun word => .jump word.nnn) 0x1
    · intro word isGroup
      rw [Instruction.ofWord, isGroup]
      rfl
    · intro word machine _ _
      rfl
  case call =>
    apply agrees_of_group (fun word => .call word.nnn) 0x2
    · intro word isGroup
      rw [Instruction.ofWord, isGroup]
      rfl
    · intro word machine _ _
      rfl
  case jumpOffset =>
    apply agrees_of_group (fun word => .jumpOffset word.nnn) 0xB
    · intro word isGroup
      rw [Instruction.ofWord, isGroup]
      rfl
    · intro word machine _ _
      rfl

/-! ## Skips -/

/-- A skip has the effect of its row if the row has the truth value of its
condition. -/
theorem hasEffect_skip
    {condition : Word → Machine → Bool}
    (meaning : Word → Condition) (wanted : Bool)
    (truth : ∀ (word : Word) (machine : Machine),
      machine.meets (meaning word) = wanted ↔ condition word machine = true) :
    HasEffect (fun word => .skip (meaning word) wanted)
      fun word machine =>
        if condition word machine then
          { machine with counter := machine.counter + 2 }
        else machine := by
  intro word machine _ _
  by_cases met : condition word machine = true
  · have isMet := (truth word machine).mpr met
    simp [Machine.carryOut, met, isMet]
  · have isUnmet := (not_congr (truth word machine)).mpr met
    simp [Machine.carryOut, met, isUnmet]

theorem register_eq_byte_iff (machine : Machine) (word : Word) :
    machine.register word.x = word.byte ↔ v machine word.x = word.nn := by
  rw [← UInt8.toNat_inj, word.toNat_byte]
  rfl

theorem register_eq_register_iff (machine : Machine) (first second : Register) :
    machine.register first = machine.register second ↔
      v machine first = v machine second :=
  UInt8.toNat_inj.symm

theorem contains_register_iff (machine : Machine) (number : Register) :
    machine.keypad.contains ((machine.register number).toNat : Int) = true ↔
      (v machine number : Int) ∈ machine.keypad.toList :=
  SortedSet.contains_iff

private theorem skipRows_agree : ∀ row ∈ skipRows, row.Agrees := by
  simp only [skipRows, List.forall_mem_cons]
  refine ⟨?holds, ?holdsNot, ?agree, ?agreeNot, ?pressed, ?pressedNot, by simp⟩
  case holds =>
    apply agrees_of_group (fun word => .skip (.holds word.x word.byte) true) 0x3
    · intro word isGroup
      rw [Instruction.ofWord, isGroup]
      rfl
    · apply hasEffect_skip (fun word => .holds word.x word.byte)
      intro word machine
      simp [Machine.meets, register_eq_byte_iff]
  case holdsNot =>
    apply agrees_of_group
      (fun word => .skip (.holds word.x word.byte) false) 0x4
    · intro word isGroup
      rw [Instruction.ofWord, isGroup]
      rfl
    · apply hasEffect_skip (fun word => .holds word.x word.byte)
      intro word machine
      simp [Machine.meets, register_eq_byte_iff]
  case agree =>
    apply agrees_of_group_digit
      (fun word => .skip (.agree word.x word.y) true) 0x5 0x0
    · intro word isGroup isDigit
      rw [Instruction.ofWord, isGroup]
      exact if_pos isDigit
    · apply hasEffect_skip (fun word => .agree word.x word.y)
      intro word machine
      simp [Machine.meets, register_eq_register_iff]
  case agreeNot =>
    apply agrees_of_group_digit
      (fun word => .skip (.agree word.x word.y) false) 0x9 0x0
    · intro word isGroup isDigit
      rw [Instruction.ofWord, isGroup]
      exact if_pos isDigit
    · apply hasEffect_skip (fun word => .agree word.x word.y)
      intro word machine
      simp [Machine.meets, register_eq_register_iff]
  case pressed =>
    apply agrees_of_keyboard (fun word => .skip (.pressed word.x) true) 0x9E
    · intro word isByte
      rw [Instruction.keyboard, isByte]
      rfl
    · apply hasEffect_skip (fun word => .pressed word.x)
      intro word machine
      simp [Machine.meets, contains_register_iff]
  case pressedNot =>
    apply agrees_of_keyboard (fun word => .skip (.pressed word.x) false) 0xA1
    · intro word isByte
      rw [Instruction.keyboard, isByte]
      rfl
    · apply hasEffect_skip (fun word => .pressed word.x)
      intro word machine
      rw [decide_eq_true_iff, ← contains_register_iff]
      simp [Machine.meets]

/-! ## Registers -/

private theorem ofNat_v (machine : Machine) (number : Register) :
    UInt8.ofNat (v machine number) = machine.register number :=
  UInt8.ofNat_toNat

private theorem hasEffect_random :
    HasEffect (fun word => .randomByte word.x word.byte) random := by
  intro word machine _ free
  cases delivery : machine.random.next? with
  | none => simp [Machine.obstacle, delivery] at free
  | some delivered =>
      obtain ⟨byte, source⟩ := delivered
      have masked :
          byte &&& word.byte = UInt8.ofNat (byte.toNat &&& word.nn) := by
        rw [← word.toNat_byte, ← UInt8.toNat_and, UInt8.ofNat_toNat]
      simp [Machine.carryOut, random, put, Machine.setRegister, delivery, masked]

private theorem hasEffect_awaitKey :
    HasEffect (fun word => .awaitKey word.x) awaitKey := by
  intro word machine _ _
  rw [awaitKey, SortedSet.min?_toList]
  cases least : machine.keypad.min? <;>
    simp [Machine.carryOut, put, Machine.setRegister, least]

private theorem registerRows_agree : ∀ row ∈ registerRows, row.Agrees := by
  simp only [registerRows, List.forall_mem_cons]
  refine ⟨?setRegister, ?addConstant, ?randomByte, ?awaitKey, ?readDelay,
    ?setDelay, ?setSound, by simp⟩
  case setRegister =>
    apply agrees_of_group (fun word => .setRegister word.x word.byte) 0x6
    · intro word isGroup
      rw [Instruction.ofWord, isGroup]
      rfl
    · intro word machine _ _
      rfl
  case addConstant =>
    apply agrees_of_group (fun word => .addConstant word.x word.byte) 0x7
    · intro word isGroup
      rw [Instruction.ofWord, isGroup]
      rfl
    · intro word machine _ _
      simp only [Machine.carryOut, put]
      rw [UInt8.ofNat_add, ofNat_v]
      rfl
  case randomByte =>
    apply agrees_of_group _ 0xC _ hasEffect_random
    intro word isGroup
    rw [Instruction.ofWord, isGroup]
    rfl
  case awaitKey =>
    apply agrees_of_miscellaneous _ 0x0A _ hasEffect_awaitKey
    intro word isByte
    rw [Instruction.miscellaneous, isByte]
    rfl
  case readDelay =>
    apply agrees_of_miscellaneous (fun word => .readDelay word.x) 0x07
    · intro word isByte
      rw [Instruction.miscellaneous, isByte]
      rfl
    · intro word machine _ _
      rfl
  case setDelay =>
    apply agrees_of_miscellaneous (fun word => .setDelay word.x) 0x15
    · intro word isByte
      rw [Instruction.miscellaneous, isByte]
      rfl
    · intro word machine _ _
      rfl
  case setSound =>
    apply agrees_of_miscellaneous (fun word => .setSound word.x) 0x18
    · intro word isByte
      rw [Instruction.miscellaneous, isByte]
      rfl
    · intro word machine _ _
      rfl

/-! ## Operations on two registers -/

/-- An operation agrees with its row if its result and its flag are the
numbers that the row says. -/
theorem agrees_arithmetic
    (number : Fin 16) (operation : Arithmetic)
    {result : Nat → Nat → Nat} {flag : Option (Nat → Nat → Nat)}
    (isOperation : Arithmetic.ofNat? number = some operation)
    (results : ∀ first second : UInt8,
      operation.result first second =
        UInt8.ofNat (result first.toNat second.toNat))
    (flags : ∀ first second : UInt8,
      (operation.flag? first second).map Arithmetic.flagByte =
        flag.map fun flag => UInt8.ofNat (flag first.toNat second.toNat)) :
    Agrees (arithmetic number result flag) := by
  apply agrees_of_group_digit
    (fun word => .combine operation word.x word.y) 0x8 number
  · intro word isGroup isDigit
    rw [Instruction.ofWord, isGroup]
    change Instruction.arithmetic word = _
    rw [Instruction.arithmetic, isDigit, isOperation]
  · intro word machine _ _
    have isFlag := flags (machine.register word.x) (machine.register word.y)
    change { machine with registers := _ } = _
    rw [← Machine.combine_eq]
    simp only [Machine.combine, results]
    cases flag with
    | none =>
        rw [Option.map_none, Option.map_eq_none_iff] at isFlag
        rw [isFlag]
        rfl
    | some flag =>
        obtain ⟨raised, isRaised, sameByte⟩ := Option.map_eq_some_iff.mp isFlag
        rw [isRaised]
        change Machine.setRegister _ _ (Arithmetic.flagByte raised) = _
        rw [sameByte]
        rfl

theorem sub_eq_ofNat (first second : UInt8) :
    first - second = UInt8.ofNat (first.toNat + 256 - second.toNat) := by
  have secondBound := second.toNat_lt
  rw [← UInt8.toNat_inj, UInt8.toNat_sub, UInt8.toNat_ofNat']
  congr 1
  omega

theorem shiftRight_eq_ofNat (byte : UInt8) :
    byte >>> 1 = UInt8.ofNat (byte.toNat / 2) := by
  have byteBound := byte.toNat_lt
  have halfBound : byte.toNat / 2 < 2 ^ 8 := by omega
  rw [← UInt8.toNat_inj, UInt8.toNat_shiftRight, UInt8.toNat_ofNat',
    Nat.mod_eq_of_lt halfBound]
  exact Nat.shiftRight_eq_div_pow byte.toNat 1

theorem shiftLeft_eq_ofNat (byte : UInt8) :
    byte <<< 1 = UInt8.ofNat (2 * byte.toNat) := by
  rw [← UInt8.toNat_inj, UInt8.toNat_shiftLeft, UInt8.toNat_ofNat',
    Nat.mul_comm]
  congr 1
  exact Nat.shiftLeft_eq byte.toNat 1

/-- A condition is flagged by a number that is one where it holds and zero
elsewhere. -/
theorem map_flagByte_decide
    {condition : Prop} [Decidable condition] {number : Nat}
    (one : condition → number = 1) (zero : ¬ condition → number = 0) :
    (some (decide condition)).map Arithmetic.flagByte =
      some (UInt8.ofNat number) := by
  by_cases holds : condition
  · simp [Arithmetic.flagByte, holds, one holds]
  · simp [Arithmetic.flagByte, holds, zero holds]

/-- The flag of a difference is the absence of a borrow. -/
theorem map_flagByte_le (first second : UInt8) :
    (some (decide (second ≤ first))).map Arithmetic.flagByte =
      some (UInt8.ofNat (if first.toNat < second.toNat then 0 else 1)) := by
  apply map_flagByte_decide
  · intro noBorrow
    exact if_neg (Nat.not_lt.mpr noBorrow)
  · intro borrow
    exact if_pos (Nat.not_le.mp borrow)

private theorem arithmeticRows_agree : ∀ row ∈ arithmeticRows, row.Agrees := by
  simp only [arithmeticRows, List.forall_mem_cons]
  refine ⟨?copy, ?or, ?and, ?xor, ?add, ?subtract, ?shiftRight, ?subtractFrom,
    ?shiftLeft, by simp⟩
  case copy =>
    apply agrees_arithmetic 0x0 .copy rfl
    · intro first second
      exact UInt8.ofNat_toNat.symm
    · intro first second
      rfl
  case or =>
    apply agrees_arithmetic 0x1 .or rfl
    · intro first second
      rw [← UInt8.toNat_or, UInt8.ofNat_toNat]
      rfl
    · intro first second
      rfl
  case and =>
    apply agrees_arithmetic 0x2 .and rfl
    · intro first second
      rw [← UInt8.toNat_and, UInt8.ofNat_toNat]
      rfl
    · intro first second
      rfl
  case xor =>
    apply agrees_arithmetic 0x3 .xor rfl
    · intro first second
      rw [← UInt8.toNat_xor, UInt8.ofNat_toNat]
      rfl
    · intro first second
      rfl
  case add =>
    apply agrees_arithmetic 0x4 .add rfl
    · intro first second
      rw [UInt8.ofNat_add, UInt8.ofNat_toNat, UInt8.ofNat_toNat]
      rfl
    · intro first second
      apply map_flagByte_decide
      · intro carry
        exact if_pos carry
      · intro noCarry
        exact if_neg noCarry
  case subtract =>
    apply agrees_arithmetic 0x5 .subtract rfl
    · intro first second
      exact sub_eq_ofNat first second
    · intro first second
      exact map_flagByte_le first second
  case shiftRight =>
    apply agrees_arithmetic 0x6 .shiftRight rfl
    · intro first second
      exact shiftRight_eq_ofNat second
    · intro first second
      apply map_flagByte_decide
      · intro odd
        exact odd
      · intro even
        exact Nat.mod_two_ne_one.mp even
  case subtractFrom =>
    apply agrees_arithmetic 0x7 .subtractFrom rfl
    · intro first second
      exact sub_eq_ofNat second first
    · intro first second
      exact map_flagByte_le second first
  case shiftLeft =>
    apply agrees_arithmetic 0xE .shiftLeft rfl
    · intro first second
      exact shiftLeft_eq_ofNat second
    · intro first second
      have secondBound := second.toNat_lt
      apply map_flagByte_decide
      · intro raised
        change second.toNat / 128 = 1
        omega
      · intro lowered
        change second.toNat / 128 = 0
        omega

/-! ## The index and the memory -/

theorem setFlag_eq_put (machine : Machine) (flag : Bool) :
    machine.setFlag flag = put machine 0xF (if flag then 1 else 0) := by
  cases flag <;> rfl

private theorem setFlag_decide_eq_put
    (machine : Machine) (condition : Prop) [Decidable condition] :
    machine.setFlag (decide condition) =
      put machine 0xF (if condition then 1 else 0) := by
  rw [setFlag_eq_put]
  simp only [decide_eq_true_eq]

private theorem hasEffect_draw :
    HasEffect (fun word => .draw word.x word.y word.n) draw := by
  intro word machine accepted _
  have sprite :
      machine.memory.slice machine.index.toNat word.n =
        (machine.memory.toList.drop machine.index.toNat).take word.n := by
    by_cases empty : word.n.val = 0
    · rw [empty, List.take_zero]
      rfl
    · have inside := Machine.checkRange_eq_none_iff.mp accepted
      simp only [Instruction.reach] at inside
      apply Bytes.slice_eq_take_drop
      unfold memorySize
      omega
  simp only [draw, ← sprite, Canvas.paintRows_eq_draw]
  rw [← setFlag_eq_put]
  rfl

private theorem hasEffect_addToIndex :
    HasEffect (fun word => .addToIndex word.x) addToIndex := by
  intro word machine _ _
  simp only [addToIndex]
  rw [← setFlag_decide_eq_put]
  rfl

private theorem decimalDigits_eq (byte : UInt8) :
    Machine.decimalDigits byte =
      [UInt8.ofNat (byte.toNat / 100), UInt8.ofNat (byte.toNat / 10 % 10),
        UInt8.ofNat (byte.toNat % 10)] := by
  have hundreds : byte.toNat / 100 = (byte / 100).toNat :=
    (UInt8.toNat_div byte 100).symm
  have tens : byte.toNat / 10 % 10 = (byte / 10 % 10).toNat := by
    rw [UInt8.toNat_mod, UInt8.toNat_div]
    rfl
  have units : byte.toNat % 10 = (byte % 10).toNat :=
    (UInt8.toNat_mod byte 10).symm
  rw [hundreds, tens, units, UInt8.ofNat_toNat, UInt8.ofNat_toNat,
    UInt8.ofNat_toNat]
  rfl

private theorem hasEffect_storeDecimal :
    HasEffect (fun word => .storeDecimal word.x) storeDecimal := by
  intro word machine _ _
  simp only [Machine.carryOut, Machine.storeAtIndex, decimalDigits_eq]
  rfl

private theorem hasEffect_storeRegisters :
    HasEffect (fun word => .storeRegisters word.x) storeRegisters := by
  intro word machine accepted _
  have inside := Machine.checkRange_eq_none_iff.mp accepted
  simp only [Instruction.reach] at inside
  have memory :
      machine.memory.overwrite machine.index.toNat
          (machine.registers.slice 0 (word.x + 1)) =
        (storeRegisters word machine).memory := by
    apply Bytes.ext_read
    intro address addressInside
    rw [Bytes.read_overwrite, Bytes.length_slice, storeRegisters,
      Bytes.read_ofFn _ addressInside]
    by_cases covered :
        machine.index ≤ address ∧ address ≤ machine.index + word.x
    · have offset :
          address - machine.index.toNat =
            ((address : Int) - machine.index).toNat := by
        omega
      rw [if_pos (by omega), Bytes.getD_slice _ _ (by omega), Nat.zero_add,
        offset]
      exact (if_pos covered).symm
    · rw [if_neg (by omega), Bytes.read_eq_getElem _ addressInside]
      exact (if_neg covered).symm
  have index :
      machine.index + ((word.x.val + 1 : Nat) : Int) =
        machine.index + word.x + 1 := by
    omega
  simp only [Machine.carryOut, Machine.storeAtIndex, Machine.moveIndex, memory,
    index]
  rfl

private theorem hasEffect_loadRegisters :
    HasEffect (fun word => .loadRegisters word.x) loadRegisters := by
  intro word machine accepted _
  have inside := Machine.checkRange_eq_none_iff.mp accepted
  simp only [Instruction.reach] at inside
  have registers :
      machine.registers.overwrite 0
          (machine.memory.slice machine.index.toNat (word.x + 1)) =
        (loadRegisters word machine).registers := by
    apply Bytes.ext_read
    intro number isNumber
    rw [Bytes.read_overwrite, Bytes.length_slice, loadRegisters,
      Bytes.read_ofFn _ isNumber]
    by_cases loaded : (⟨number, isNumber⟩ : Register) ≤ word.x
    · have below : number ≤ word.x.val := loaded
      have address :
          machine.index.toNat + number = (machine.index + number).toNat := by
        omega
      rw [if_pos (by omega), Bytes.getD_slice _ _ (by omega), Nat.sub_zero,
        address]
      exact (if_pos loaded).symm
    · have above : ¬ number ≤ word.x.val := loaded
      rw [if_neg (by omega), Bytes.read_eq_getElem _ isNumber]
      exact (if_neg loaded).symm
  have index :
      machine.index + ((word.x.val + 1 : Nat) : Int) =
        machine.index + word.x + 1 := by
    omega
  simp only [Machine.carryOut, Machine.moveIndex, registers, index]
  rfl

private theorem memoryRows_agree : ∀ row ∈ memoryRows, row.Agrees := by
  simp only [memoryRows, List.forall_mem_cons]
  refine ⟨?setIndex, ?draw, ?addToIndex, ?pointAtGlyph, ?storeDecimal,
    ?storeRegisters, ?loadRegisters, by simp⟩
  case setIndex =>
    apply agrees_of_group (fun word => .setIndex word.nnn) 0xA
    · intro word isGroup
      rw [Instruction.ofWord, isGroup]
      rfl
    · intro word machine _ _
      rfl
  case draw =>
    apply agrees_of_group _ 0xD _ hasEffect_draw
    intro word isGroup
    rw [Instruction.ofWord, isGroup]
    rfl
  case addToIndex =>
    apply agrees_of_miscellaneous _ 0x1E _ hasEffect_addToIndex
    intro word isByte
    rw [Instruction.miscellaneous, isByte]
    rfl
  case pointAtGlyph =>
    apply agrees_of_miscellaneous (fun word => .pointAtGlyph word.x) 0x29
    · intro word isByte
      rw [Instruction.miscellaneous, isByte]
      rfl
    · intro word machine _ _
      simp only [Machine.carryOut, Font.address, Font.start, Font.glyphHeight]
      rw [Nat.mul_comm]
      rfl
  case storeDecimal =>
    apply agrees_of_miscellaneous _ 0x33 _ hasEffect_storeDecimal
    intro word isByte
    rw [Instruction.miscellaneous, isByte]
    rfl
  case storeRegisters =>
    apply agrees_of_miscellaneous _ 0x55 _ hasEffect_storeRegisters
    intro word isByte
    rw [Instruction.miscellaneous, isByte]
    rfl
  case loadRegisters =>
    apply agrees_of_miscellaneous _ 0x65 _ hasEffect_loadRegisters
    intro word isByte
    rw [Instruction.miscellaneous, isByte]
    rfl

theorem table_agrees : ∀ row ∈ table, row.Agrees := by
  simp only [table, List.forall_mem_append]
  exact ⟨⟨⟨⟨controlRows_agree, skipRows_agree⟩, registerRows_agree⟩,
    arithmeticRows_agree⟩, memoryRows_agree⟩

end Opcode

end Chip8
