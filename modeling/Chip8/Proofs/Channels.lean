import Chip8.Proofs.Outcomes

/-!
# Input channels

A machine takes notice of its surroundings through a few of its parts only.
For each of them this module names the words that read it, and shows that
nothing leaks past these words: two machines that differ in the channel at
most do the same for as long as the first one reads nothing from it, and go on
differing in the channel at most.
-/

namespace Chip8

namespace Instruction

variable {word : Word}

private theorem group_of_pressed
    {register : Register} {wanted : Bool}
    (isSkip : ofWord word = .skip (.pressed register) wanted) :
    word.group = 0xE ∧ (word.nn = 0x9E ∨ word.nn = 0xA1) := by
  cases Word.ofWord_eq_iff.mp isSkip with
  | pressed isGroup isByte => exact ⟨isGroup, .inl isByte⟩
  | pressedNot isGroup isByte => exact ⟨isGroup, .inr isByte⟩

theorem group_of_randomByte
    {register : Register} {mask : UInt8}
    (isRandom : ofWord word = .randomByte register mask) :
    word.group = 0xC := by
  cases Word.ofWord_eq_iff.mp isRandom with
  | randomByte isGroup => exact isGroup

private theorem group_of_draw
    {column row : Register} {height : Fin 16}
    (isDraw : ofWord word = .draw column row height) :
    word.group = 0xD := by
  cases Word.ofWord_eq_iff.mp isDraw with
  | draw isGroup => exact isGroup

end Instruction

namespace Machine

/-- Combining two registers takes nothing but the registers into account. -/
theorem registers_combine_congr
    {first second : Machine} (same : first.registers = second.registers)
    (operation : Arithmetic) (left right : Register) :
    (first.combine operation left right).registers =
      (second.combine operation left right).registers := by
  have sameLeft : first.register left = second.register left := by
    simp only [register, same]
  have sameRight : first.register right = second.register right := by
    simp only [register, same]
  simp only [combine, sameLeft, sameRight]
  cases operation.flag? (second.register left) (second.register right) <;>
    simp only [setFlag, setRegister, same]

end Machine

/-- A part of a machine that its surroundings can change. -/
inductive Channel where
  | keypad
  | random
  | delayTimer
  | display
  | soundTimer
  deriving DecidableEq, Repr

namespace Channel

def Reads : Channel → Word → Prop
  | keypad, word =>
      word.group = 0xE ∧ (word.nn = 0x9E ∨ word.nn = 0xA1) ∨
        word.group = 0xF ∧ word.nn = 0x0A
  | random, word => word.group = 0xC
  | delayTimer, word => word.group = 0xF ∧ word.nn = 0x07
  | display, word => word.group = 0xD
  | soundTimer, _ => False

def copy (channel : Channel) (donor machine : Machine) : Machine :=
  match channel with
  | keypad => { machine with keypad := donor.keypad }
  | random => { machine with random := donor.random }
  | delayTimer => { machine with delayTimer := donor.delayTimer }
  | display => { machine with display := donor.display }
  | soundTimer => { machine with soundTimer := donor.soundTimer }

def Agree (channel : Channel) (first second : Machine) : Prop :=
  channel.copy second first = second

theorem Agree.exists_copy
    {channel : Channel} {first second : Machine}
    (agree : channel.Agree first second) :
    ∃ donor, second = channel.copy donor first :=
  ⟨second, agree.symm⟩

/-! ## Instructions -/

def ofInstruction? : Instruction → Option Channel
  | .skip (.pressed _) _ | .awaitKey _ => some keypad
  | .randomByte _ _ => some random
  | .readDelay _ => some delayTimer
  | .draw _ _ _ => some display
  | _ => none

private theorem reads_of_instruction
    {channel : Channel} {word : Word}
    (reading : ofInstruction? (.ofWord word) = some channel) :
    channel.Reads word := by
  cases shape : Instruction.ofWord word with
  | skip condition wanted =>
      rw [shape] at reading
      cases condition with
      | pressed register =>
          cases reading
          exact .inl (Instruction.group_of_pressed shape)
      | _ => cases reading
  | awaitKey register =>
      rw [shape] at reading
      cases reading
      have isWait := Instruction.ofWord_eq_awaitKey_iff.mp shape
      exact .inr ⟨isWait.1, isWait.2.1⟩
  | randomByte register mask =>
      rw [shape] at reading
      cases reading
      exact Instruction.group_of_randomByte shape
  | readDelay register =>
      rw [shape] at reading
      cases reading
      have isRead := Instruction.ofWord_eq_readDelay_iff.mp shape
      exact ⟨isRead.1, isRead.2.1⟩
  | draw column row height =>
      rw [shape] at reading
      cases reading
      exact Instruction.group_of_draw shape
  | _ =>
      rw [shape] at reading
      cases reading

/-- An instruction that does not read the channel leaves machines in agreement
that differ there. -/
theorem Agree.carryOut
    {channel : Channel} {first second : Machine} {instruction : Instruction}
    (agree : channel.Agree first second)
    (unread : ofInstruction? instruction ≠ some channel) :
    channel.Agree (first.carryOut instruction)
      (second.carryOut instruction) := by
  obtain ⟨donor, rfl⟩ := agree.exists_copy
  cases instruction with
  | skip condition wanted =>
      cases condition with
      | pressed register =>
          cases channel with
          | keypad => exact absurd rfl unread
          | _ => rfl
      | _ => cases channel <;> rfl
  | randomByte register mask =>
      cases channel with
      | random => exact absurd rfl unread
      | _ => rfl
  | readDelay register =>
      cases channel with
      | delayTimer => exact absurd rfl unread
      | _ => rfl
  | draw column row height =>
      cases channel with
      | display => exact absurd rfl unread
      | _ => rfl
  | awaitKey register =>
      cases channel with
      | keypad => exact absurd rfl unread
      | _ => rfl
  | combine operation left right =>
      have sameRegisters :
          (first.combine operation left right).registers =
            ((channel.copy donor first).combine operation left
              right).registers := by
        apply Machine.registers_combine_congr
        cases channel <;> rfl
      simp only [Machine.carryOut, ← sameRegisters]
      cases channel <;> rfl
  | _ => cases channel <;> rfl

/-- An instruction that does not read the channel meets the same obstacle in
both machines. -/
theorem Agree.obstacle
    {channel : Channel} {first second : Machine} {instruction : Instruction}
    (agree : channel.Agree first second)
    (unread : ofInstruction? instruction ≠ some channel) :
    first.obstacle instruction = second.obstacle instruction := by
  obtain ⟨donor, rfl⟩ := agree.exists_copy
  cases instruction with
  | readDelay register =>
      cases channel with
      | delayTimer => exact absurd rfl unread
      | _ => rfl
  | awaitKey register =>
      cases channel with
      | keypad => exact absurd rfl unread
      | _ => rfl
  | randomByte register mask =>
      cases channel with
      | random => exact absurd rfl unread
      | _ => rfl
  | _ => rfl

/-- What no channel touches. -/
theorem Agree.fixed
    {channel : Channel} {first second : Machine}
    (agree : channel.Agree first second) :
    first.memory = second.memory ∧ first.counter = second.counter ∧
      first.index = second.index ∧ first.stack = second.stack ∧
      first.stackLimit = second.stackLimit := by
  obtain ⟨donor, rfl⟩ := agree.exists_copy
  cases channel <;> exact ⟨rfl, rfl, rfl, rfl, rfl⟩

theorem Agree.fetch
    {channel : Channel} {first second : Machine}
    (agree : channel.Agree first second) :
    first.canFetch = second.canFetch ∧
      first.wordAtCounter = second.wordAtCounter := by
  obtain ⟨donor, rfl⟩ := agree.exists_copy
  cases channel <;> exact ⟨rfl, rfl⟩

theorem Agree.ready
    {channel : Channel} {first second : Machine} {keys otherKeys : KeySet}
    (agree : channel.Agree first second)
    (sameKeys : keys = otherKeys ∨ channel = .keypad) :
    channel.Agree (first.ready keys) (second.ready otherKeys) := by
  obtain ⟨donor, rfl⟩ := agree.exists_copy
  rcases sameKeys with rfl | rfl
  · cases channel <;> rfl
  · rfl

theorem Agree.stepOver
    {channel : Channel} {first second : Machine}
    (agree : channel.Agree first second) :
    channel.Agree first.stepOver second.stepOver := by
  obtain ⟨donor, rfl⟩ := agree.exists_copy
  cases channel <;> rfl

theorem Agree.countDown
    {channel : Channel} {first second : Machine}
    (agree : channel.Agree first second) :
    channel.Agree first.countDown second.countDown := by
  obtain ⟨donor, rfl⟩ := agree.exists_copy
  cases channel <;> rfl

/-! ## Cycles -/

/-- Two outcomes of the same kind, with the same fault or failure, that leave
machines in agreement. -/
inductive OutcomesAgree (channel : Channel) : Outcome → Outcome → Prop
  | done {first second : Machine} (agree : channel.Agree first second) :
      OutcomesAgree channel (.done first) (.done second)
  | fault {first second : Machine} (fault : Fault)
      (agree : channel.Agree first second) :
      OutcomesAgree channel (.fault fault first) (.fault fault second)
  | failure {first second : Machine} (failure : Failure)
      (agree : channel.Agree first second) :
      OutcomesAgree channel (.failure failure first)
        (.failure failure second)

theorem OutcomesAgree.machine
    {channel : Channel} {first second : Outcome}
    (agree : OutcomesAgree channel first second) :
    channel.Agree first.machine second.machine := by
  cases agree <;> assumption

/-- A cycle that faults reads no channel, whatever its word is. -/
theorem Agree.cycle
    {channel : Channel} {first second : Machine} {keys otherKeys : KeySet}
    (agree : channel.Agree first second)
    (sameKeys : keys = otherKeys ∨ channel = .keypad)
    (unread : first.canFetch = true → channel.Reads first.wordAtCounter →
      ∃ fault after, first.cycle keys = .fault fault after) :
    OutcomesAgree channel (first.cycle keys) (second.cycle otherKeys) := by
  obtain ⟨sameMemory, sameCounter, sameIndex, sameStack, sameLimit⟩ :=
    agree.fixed
  have sameHeight : first.stack.length = second.stack.length :=
    congrArg List.length sameStack
  obtain ⟨sameFetch, sameWord⟩ := agree.fetch
  have sameInstruction :
      first.instructionAtCounter = second.instructionAtCounter :=
    congrArg Instruction.ofWord sameWord
  have sameRefusal :
      (first.ready keys).refusal first.instructionAtCounter =
        (second.ready otherKeys).refusal first.instructionAtCounter :=
    Machine.refusal_congr sameIndex sameHeight sameLimit _
  have readyAgree := agree.ready sameKeys
  have unreadUnlessFault
      (inside : first.canFetch = true)
      (unbroken : ∀ fault after, first.cycle keys ≠ .fault fault after) :
      ofInstruction? first.instructionAtCounter ≠ some channel := by
    intro reading
    obtain ⟨fault, after, broken⟩ :=
      unread inside (reads_of_instruction reading)
    exact unbroken fault after broken
  cases ended : first.cycle keys with
  | fault fault after =>
      obtain ⟨rfl, _⟩ := Machine.cycle_eq_fault_iff.mp ended
      rw [Machine.cycle_fault_congr sameMemory sameCounter sameIndex
        sameHeight sameLimit ended otherKeys]
      exact .fault fault agree
  | done next =>
      obtain ⟨inside, executed⟩ := Machine.cycle_eq_done_iff.mp ended
      obtain ⟨accepted, free, rfl⟩ := Machine.execute_eq_done_iff.mp executed
      have noReader := unreadUnlessFault inside (by simp [ended])
      have otherDone :
          second.cycle otherKeys =
            .done ((second.ready otherKeys).carryOut
              first.instructionAtCounter) := by
        refine Machine.cycle_eq_done_iff.mpr ⟨sameFetch ▸ inside, ?_⟩
        rw [← sameInstruction]
        exact Machine.execute_eq_done_iff.mpr
          ⟨sameRefusal.symm.trans accepted,
            (readyAgree.obstacle noReader).symm.trans free, rfl⟩
      rw [otherDone]
      exact .done (readyAgree.carryOut noReader)
  | failure failure after =>
      obtain ⟨inside, executed⟩ := Machine.cycle_eq_failure_iff.mp ended
      obtain ⟨accepted, blocked, rfl⟩ :=
        Machine.execute_eq_failure_iff.mp executed
      have noReader := unreadUnlessFault inside (by simp [ended])
      have otherFailure :
          second.cycle otherKeys =
            .failure failure (second.ready otherKeys) := by
        refine Machine.cycle_eq_failure_iff.mpr ⟨sameFetch ▸ inside, ?_⟩
        rw [← sameInstruction]
        exact Machine.execute_eq_failure_iff.mpr
          ⟨sameRefusal.symm.trans accepted,
            (readyAgree.obstacle noReader).symm.trans blocked, rfl⟩
      rw [otherFailure]
      exact .failure failure readyAgree

end Channel

/-! ## Runs -/

namespace Machine

/-- What a driver asks of a machine. -/
inductive Request where
  | cycle (keys : KeySet)
  | countDown
  deriving DecidableEq

/-- What comes of a request: the word that a cycle fetches, and the outcome. -/
structure Response where
  word : Option Word
  outcome : Outcome

def respond (machine : Machine) : Request → Response
  | .cycle keys =>
      { word := if machine.canFetch then some machine.wordAtCounter else none
        outcome := machine.cycle keys }
  | .countDown => { word := none, outcome := .done machine.countDown }

/-- The responses to requests, each of which goes to the machine that the one
before it left behind, be it after a fault or a failure. -/
def respondAll : List Request → Machine → List Response
  | [], _ => []
  | request :: later, machine =>
      machine.respond request ::
        respondAll later (machine.respond request).outcome.machine

end Machine

namespace Channel

open Machine

/-- The requests are the same, up to the keys if the keypad is the channel. -/
inductive RequestsAgree (channel : Channel) : Request → Request → Prop
  | cycle {keys otherKeys : KeySet}
      (sameKeys : keys = otherKeys ∨ channel = .keypad) :
      RequestsAgree channel (.cycle keys) (.cycle otherKeys)
  | countDown : RequestsAgree channel .countDown .countDown

/-- A word that reads the channel has been fetched, and its cycle has not ended
in a fault. -/
def ReadBy (channel : Channel) (response : Response) : Prop :=
  (∃ word, response.word = some word ∧ channel.Reads word) ∧
    ∀ fault after, response.outcome ≠ .fault fault after

structure ResponsesAgree (channel : Channel) (first second : Response) :
    Prop where
  word : first.word = second.word
  outcome : OutcomesAgree channel first.outcome second.outcome

/-- A request that does not read the channel is answered alike, and the machines
go on agreeing outside the channel. -/
theorem Agree.respond
    {channel : Channel} {first second : Machine} {request other : Request}
    (agree : channel.Agree first second)
    (sameRequest : RequestsAgree channel request other)
    (unread : ¬ channel.ReadBy (first.respond request)) :
    ResponsesAgree channel (first.respond request) (second.respond other) := by
  cases sameRequest with
  | countDown => exact ⟨rfl, .done agree.countDown⟩
  | @cycle keys otherKeys sameKeys =>
      obtain ⟨sameFetch, sameWord⟩ := agree.fetch
      have sameResponse :
          (first.respond (.cycle keys)).word =
            (second.respond (.cycle otherKeys)).word := by
        simp only [Machine.respond, sameFetch, sameWord]
      refine ⟨sameResponse, agree.cycle sameKeys ?_⟩
      intro inside reads
      by_contra unbroken
      refine unread ⟨⟨first.wordAtCounter, if_pos inside, reads⟩, ?_⟩
      intro fault after broken
      exact unbroken ⟨fault, after, broken⟩

/-- Two runs of the same requests, on machines that agree but for a channel,
agree at every step as long as the first one does not read the channel: they
fetch the same words, succeed, fault and fail alike, and leave machines that
agree but for the channel. -/
theorem runs_agree_off_channel
    {channel : Channel} {first second : Machine}
    {requests others : List Request}
    (agree : channel.Agree first second)
    (sameRequests : List.Forall₂ (RequestsAgree channel) requests others)
    (unread : ∀ response ∈ respondAll requests first,
      ¬ channel.ReadBy response) :
    List.Forall₂ (ResponsesAgree channel) (respondAll requests first)
      (respondAll others second) := by
  induction sameRequests generalizing first second with
  | nil => exact .nil
  | @cons request other later otherLater sameRequest _ inductionHypothesis =>
      obtain ⟨firstUnread, laterUnread⟩ := List.forall_mem_cons.mp unread
      have firstAgree := agree.respond sameRequest firstUnread
      exact .cons firstAgree
        (inductionHypothesis firstAgree.outcome.machine laterUnread)

/-- A machine that sets a register and then returns without having been
called. -/
def setAndReturn (keypad : KeySet) : Machine :=
  { initial (.replay ⟨[7], 0⟩) none with
    memory := (Bytes.zeros memorySize).overwrite 0 [0x60, 0x05, 0x00, 0xEE]
    counter := 0
    keypad := keypad }

private theorem words_setAndReturn :
    (respondAll [.cycle (.singleton 1), .countDown, .cycle (.singleton 2)]
        (setAndReturn ∅)).filterMap Response.word =
      [.ofBytes 0x60 0x05, .ofBytes 0x00 0xEE] := by
  decide +kernel

/-- Two machines with different keys down set a register and then return without
a call. -/
theorem runs_agree_off_channel_setAndReturn :
    List.Forall₂ (ResponsesAgree .keypad)
      (respondAll [.cycle (.singleton 1), .countDown, .cycle (.singleton 2)]
        (setAndReturn ∅))
      (respondAll [.cycle (.singleton 7), .countDown, .cycle ∅]
        (setAndReturn (.singleton 3))) := by
  have sameRequests :
      List.Forall₂ (RequestsAgree .keypad)
        [.cycle (.singleton 1), .countDown, .cycle (.singleton 2)]
        [.cycle (.singleton 7), .countDown, .cycle ∅] :=
    .cons (.cycle (.inr rfl))
      (.cons .countDown (.cons (.cycle (.inr rfl)) .nil))
  refine runs_agree_off_channel rfl sameRequests ?_
  intro response belongs readBy
  obtain ⟨⟨word, isWord, reads⟩, _⟩ := readBy
  have listed : word ∈ [Word.ofBytes 0x60 0x05, .ofBytes 0x00 0xEE] := by
    rw [← words_setAndReturn]
    exact List.mem_filterMap.mpr ⟨response, belongs, isWord⟩
  simp only [List.mem_cons, List.not_mem_nil, or_false] at listed
  rcases listed with rfl | rfl
  · exact absurd reads (by simp [Reads, Word.group, Word.ofBytes])
  · exact absurd reads (by simp [Reads, Word.group, Word.ofBytes])

end Channel

end Chip8
