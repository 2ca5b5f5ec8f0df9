import Chip8.Instruction
import Chip8.Proofs.Masks

/-!
# The meanings of words

Which instruction a word stands for is a matter of its digits.  `Word.Means` lists
the digits of every instruction, and of the words that are ignored.  What is said
of the instruction of a word is read off this list.
-/

namespace Chip8

namespace Word

/-- The word means the instruction, by its digits. -/
inductive Means (word : Word) : Instruction → Prop
  | ignore (unassigned : word.Unassigned) : Means word .ignore
  | clearScreen (isGroup : word.group = 0x0) (isWord : word.toNat = 0x00E0) :
      Means word .clearScreen
  | returnToCaller (isGroup : word.group = 0x0) (isWord : word.toNat = 0x00EE) :
      Means word .returnToCaller
  | jump (isGroup : word.group = 0x1) : Means word (.jump word.nnn)
  | call (isGroup : word.group = 0x2) : Means word (.call word.nnn)
  | holds (isGroup : word.group = 0x3) :
      Means word (.skip (.holds word.x word.byte) true)
  | holdsNot (isGroup : word.group = 0x4) :
      Means word (.skip (.holds word.x word.byte) false)
  | agree (isGroup : word.group = 0x5) (isDigit : word.n = 0x0) :
      Means word (.skip (.agree word.x word.y) true)
  | setRegister (isGroup : word.group = 0x6) :
      Means word (.setRegister word.x word.byte)
  | addConstant (isGroup : word.group = 0x7) :
      Means word (.addConstant word.x word.byte)
  | combine {operation : Arithmetic} (isGroup : word.group = 0x8)
      (isOperation : Arithmetic.ofNat? word.n = some operation) :
      Means word (.combine operation word.x word.y)
  | agreeNot (isGroup : word.group = 0x9) (isDigit : word.n = 0x0) :
      Means word (.skip (.agree word.x word.y) false)
  | setIndex (isGroup : word.group = 0xA) : Means word (.setIndex word.nnn)
  | jumpOffset (isGroup : word.group = 0xB) : Means word (.jumpOffset word.nnn)
  | randomByte (isGroup : word.group = 0xC) :
      Means word (.randomByte word.x word.byte)
  | draw (isGroup : word.group = 0xD) : Means word (.draw word.x word.y word.n)
  | pressed (isGroup : word.group = 0xE) (isByte : word.nn = 0x9E) :
      Means word (.skip (.pressed word.x) true)
  | pressedNot (isGroup : word.group = 0xE) (isByte : word.nn = 0xA1) :
      Means word (.skip (.pressed word.x) false)
  | readDelay (isGroup : word.group = 0xF) (isByte : word.nn = 0x07) :
      Means word (.readDelay word.x)
  | awaitKey (isGroup : word.group = 0xF) (isByte : word.nn = 0x0A) :
      Means word (.awaitKey word.x)
  | setDelay (isGroup : word.group = 0xF) (isByte : word.nn = 0x15) :
      Means word (.setDelay word.x)
  | setSound (isGroup : word.group = 0xF) (isByte : word.nn = 0x18) :
      Means word (.setSound word.x)
  | addToIndex (isGroup : word.group = 0xF) (isByte : word.nn = 0x1E) :
      Means word (.addToIndex word.x)
  | pointAtGlyph (isGroup : word.group = 0xF) (isByte : word.nn = 0x29) :
      Means word (.pointAtGlyph word.x)
  | storeDecimal (isGroup : word.group = 0xF) (isByte : word.nn = 0x33) :
      Means word (.storeDecimal word.x)
  | storeRegisters (isGroup : word.group = 0xF) (isByte : word.nn = 0x55) :
      Means word (.storeRegisters word.x)
  | loadRegisters (isGroup : word.group = 0xF) (isByte : word.nn = 0x65) :
      Means word (.loadRegisters word.x)

section

variable {word : Word}

/-! ## Each group of words -/

private theorem means_system
    (isGroup : word.group = 0x0) :
    word.Means (.system word) := by
  unfold Instruction.system
  split
  next isWord => exact .clearScreen isGroup isWord
  next isWord => exact .returnToCaller isGroup isWord
  next notClear notReturn =>
    refine .ignore (.inl ⟨congrArg Fin.val isGroup, ?_⟩)
    rw [List.mem_cons, List.mem_singleton, not_or]
    exact ⟨notClear, notReturn⟩

/-- A word of group 5 or 9 means what the comparison of registers reads from it.
-/
theorem means_compareRegisters
    {wanted : Bool}
    (isGroup : word.group = if wanted then 0x5 else 0x9) :
    word.Means (.compareRegisters word wanted) := by
  unfold Instruction.compareRegisters
  cases wanted with
  | true =>
      split
      next isDigit => exact .agree isGroup isDigit
      next notZero =>
        refine .ignore (.inr (.inl ⟨congrArg Fin.val isGroup, ?_⟩))
        exact fun isZero => notZero (Fin.ext isZero)
  | false =>
      split
      next isDigit => exact .agreeNot isGroup isDigit
      next notZero =>
        refine .ignore (.inr (.inr (.inr (.inl ⟨congrArg Fin.val isGroup, ?_⟩))))
        exact fun isZero => notZero (Fin.ext isZero)

private theorem means_arithmetic
    (isGroup : word.group = 0x8) :
    word.Means (.arithmetic word) := by
  unfold Instruction.arithmetic
  split
  next operation isOperation => exact .combine isGroup isOperation
  next none =>
    refine .ignore (.inr (.inr (.inl ⟨congrArg Fin.val isGroup, ?_⟩)))
    unfold Arithmetic.ofNat? at none
    split at none <;> simp_all

private theorem means_keyboard
    (isGroup : word.group = 0xE) :
    word.Means (.keyboard word) := by
  unfold Instruction.keyboard
  split
  next isByte => exact .pressed isGroup isByte
  next isByte => exact .pressedNot isGroup isByte
  next notPressed notReleased =>
    refine .ignore
      (.inr (.inr (.inr (.inr (.inl ⟨congrArg Fin.val isGroup, ?_⟩)))))
    rw [List.mem_cons, List.mem_singleton, not_or]
    exact ⟨notPressed, notReleased⟩

private theorem means_miscellaneous
    (isGroup : word.group = 0xF) :
    word.Means (.miscellaneous word) := by
  unfold Instruction.miscellaneous
  split
  next isByte => exact .readDelay isGroup isByte
  next isByte => exact .awaitKey isGroup isByte
  next isByte => exact .setDelay isGroup isByte
  next isByte => exact .setSound isGroup isByte
  next isByte => exact .addToIndex isGroup isByte
  next isByte => exact .pointAtGlyph isGroup isByte
  next isByte => exact .storeDecimal isGroup isByte
  next isByte => exact .storeRegisters isGroup isByte
  next isByte => exact .loadRegisters isGroup isByte
  next =>
    refine .ignore
      (.inr (.inr (.inr (.inr (.inr ⟨congrArg Fin.val isGroup, ?_⟩)))))
    simp_all

/-- Every word means its instruction. -/
theorem means_ofWord
    (word : Word) :
    word.Means (.ofWord word) := by
  unfold Instruction.ofWord
  split
  next isGroup => exact means_system isGroup
  next isGroup => exact .jump isGroup
  next isGroup => exact .call isGroup
  next isGroup => exact .holds isGroup
  next isGroup => exact .holdsNot isGroup
  next isGroup => exact means_compareRegisters isGroup
  next isGroup => exact .setRegister isGroup
  next isGroup => exact .addConstant isGroup
  next isGroup => exact means_arithmetic isGroup
  next isGroup => exact means_compareRegisters isGroup
  next isGroup => exact .setIndex isGroup
  next isGroup => exact .jumpOffset isGroup
  next isGroup => exact .randomByte isGroup
  next isGroup => exact .draw isGroup
  next isGroup => exact means_keyboard isGroup
  next =>
    apply means_miscellaneous
    grind

/-! ## Reading off the instruction -/

private theorem ofNat?_of_unused
    {number : Nat}
    (unused : number ∉ [0x0, 0x1, 0x2, 0x3, 0x4, 0x5, 0x6, 0x7, 0xE]) :
    Arithmetic.ofNat? number = none := by
  unfold Arithmetic.ofNat?
  split <;> simp_all

theorem ofWord_of_unassigned
    (unassigned : word.Unassigned) :
    Instruction.ofWord word = .ignore := by
  have ofGroup : ∀ digit : Fin 16, word.group.val = digit.val →
      word.group = digit := fun _ same => Fin.ext same
  rcases unassigned with
    ⟨isGroup, unused⟩ | ⟨isGroup, notZero⟩ | ⟨isGroup, unused⟩ |
    ⟨isGroup, notZero⟩ | ⟨isGroup, unused⟩ | ⟨isGroup, unused⟩
  · rw [Instruction.ofWord, ofGroup 0x0 isGroup]
    change Instruction.system word = _
    unfold Instruction.system
    split <;> simp_all
  · rw [Instruction.ofWord, ofGroup 0x5 isGroup]
    exact if_neg (fun isZero => notZero (congrArg Fin.val isZero))
  · rw [Instruction.ofWord, ofGroup 0x8 isGroup]
    change Instruction.arithmetic word = _
    rw [Instruction.arithmetic, ofNat?_of_unused unused]
  · rw [Instruction.ofWord, ofGroup 0x9 isGroup]
    exact if_neg (fun isZero => notZero (congrArg Fin.val isZero))
  · rw [Instruction.ofWord, ofGroup 0xE isGroup]
    change Instruction.keyboard word = _
    unfold Instruction.keyboard
    split <;> simp_all
  · rw [Instruction.ofWord, ofGroup 0xF isGroup]
    change Instruction.miscellaneous word = _
    unfold Instruction.miscellaneous
    split <;> simp_all

/-- A word means no other instruction. -/
theorem Means.ofWord_eq
    {instruction : Instruction} (means : word.Means instruction) :
    .ofWord word = instruction := by
  cases means with
  | ignore unassigned => exact ofWord_of_unassigned unassigned
  | clearScreen isGroup isWord | returnToCaller isGroup isWord =>
      simp [Instruction.ofWord, isGroup, Instruction.system, isWord]
  | agree isGroup isDigit | agreeNot isGroup isDigit =>
      simp [Instruction.ofWord, isGroup, Instruction.compareRegisters, isDigit]
  | combine isGroup isOperation =>
      simp [Instruction.ofWord, isGroup, Instruction.arithmetic, isOperation]
  | pressed isGroup isByte | pressedNot isGroup isByte =>
      simp [Instruction.ofWord, isGroup, Instruction.keyboard, isByte]
  | jump isGroup | call isGroup | holds isGroup | holdsNot isGroup
  | setRegister isGroup | addConstant isGroup | setIndex isGroup
  | jumpOffset isGroup | randomByte isGroup | draw isGroup =>
      simp [Instruction.ofWord, isGroup]
  | readDelay isGroup isByte | awaitKey isGroup isByte | setDelay isGroup isByte
  | setSound isGroup isByte | addToIndex isGroup isByte
  | pointAtGlyph isGroup isByte | storeDecimal isGroup isByte
  | storeRegisters isGroup isByte | loadRegisters isGroup isByte =>
      simp [Instruction.ofWord, isGroup, Instruction.miscellaneous, isByte]

theorem ofWord_eq_iff
    {instruction : Instruction} :
    .ofWord word = instruction ↔ word.Means instruction := by
  constructor
  · intro isInstruction
    rw [← isInstruction]
    exact word.means_ofWord
  · exact Means.ofWord_eq

end

end Word

end Chip8
