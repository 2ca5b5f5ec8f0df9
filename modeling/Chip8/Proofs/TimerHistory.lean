import Chip8.Proofs.Channels
import Chip8.Proofs.SteppedFrames

/-!
# Timers through frames

A frame counts both timers down and then runs its cycles, some of which set a
timer.  What a timer shows after a number of frames depends on the latest
setting alone: on its value and on the number of frames since.  The frames are
stepped one after the other, also behind one that a fault has halted.
-/

namespace Chip8

inductive Timer where
  | delay
  | sound
  deriving DecidableEq, Repr

namespace Timer

def value : Timer → Machine → Int
  | delay, machine => machine.delayTimer
  | sound, machine => machine.soundTimer

/-- The low byte of the words that set a timer. -/
def code : Timer → Nat
  | delay => 0x15
  | sound => 0x18

/-- The word sets the timer to the byte of its register. -/
def Sets (timer : Timer) (word : Word) : Prop :=
  word.group = 0xF ∧ word.nn = timer.code

instance (timer : Timer) (word : Word) : Decidable (timer.Sets word) :=
  inferInstanceAs (Decidable (_ ∧ _))

def setter : Timer → Register → Instruction
  | delay, register => .setDelay register
  | sound, register => .setSound register

/-- The words that set a timer can be told by their digits. -/
theorem ofWord_eq_setter_iff
    (timer : Timer) {word : Word} {register : Register} :
    Instruction.ofWord word = timer.setter register ↔
      timer.Sets word ∧ register = word.x := by
  rw [Word.ofWord_eq_iff]
  constructor
  · intro means
    cases timer with
    | delay =>
        cases means with
        | setDelay isGroup isByte => exact ⟨⟨isGroup, isByte⟩, rfl⟩
    | sound =>
        cases means with
        | setSound isGroup isByte => exact ⟨⟨isGroup, isByte⟩, rfl⟩
  · rintro ⟨⟨isGroup, isByte⟩, rfl⟩
    cases timer with
    | delay => exact .setDelay isGroup isByte
    | sound => exact .setSound isGroup isByte

private theorem value_carryOut_setter
    (timer : Timer) (machine : Machine) (register : Register) :
    timer.value (machine.carryOut (timer.setter register)) =
      (machine.register register).toNat := by
  cases timer <;> rfl

private theorem value_carryOut_of_ne_setter
    {timer : Timer} {instruction : Instruction}
    (noSetter : ∀ register, instruction ≠ timer.setter register)
    (machine : Machine) :
    timer.value (machine.carryOut instruction) = timer.value machine := by
  cases timer with
  | delay =>
      rw [value, Machine.delayTimer_carryOut]
      cases instruction with
      | setDelay register => exact absurd rfl (noSetter register)
      | _ => rfl
  | sound =>
      rw [value, Machine.soundTimer_carryOut]
      cases instruction with
      | setSound register => exact absurd rfl (noSetter register)
      | _ => rfl

private theorem value_countDown (timer : Timer) (machine : Machine) :
    timer.value machine.countDown = max (timer.value machine - 1) 0 := by
  cases timer <;> rfl

theorem value_ready (timer : Timer) (machine : Machine) (keys : KeySet) :
    timer.value (machine.ready keys) = timer.value machine := by
  cases timer <;> rfl

end Timer

namespace Session

/-! ## The cycles of frames -/

/-- A cycle: the machine that it found and what came of it. -/
structure Attempt where
  found : Machine
  outcome : Outcome

namespace Attempt

def isDone (attempt : Attempt) : Bool :=
  match attempt.outcome with
  | .done _ => true
  | _ => false

def fault? (attempt : Attempt) : Option Fault :=
  match attempt.outcome with
  | .fault fault _ => some fault
  | _ => none

/-- The value that a cycle sets the timer to, if it does and is done. -/
def setting? (timer : Timer) (attempt : Attempt) : Option Int :=
  if attempt.isDone = true ∧ timer.Sets attempt.found.wordAtCounter then
    some (attempt.found.register attempt.found.wordAtCounter.x).toNat
  else none

/-- The word that a cycle fetches, and its outcome. -/
def response (attempt : Attempt) : Machine.Response where
  word :=
    if attempt.found.canFetch then some attempt.found.wordAtCounter else none
  outcome := attempt.outcome

end Attempt

def attempts (haltOnFault : Bool) (keys : KeySet) :
    Nat → Machine → List Attempt
  | 0, _ => []
  | count + 1, machine =>
      { found := machine, outcome := machine.cycle keys } ::
        match machine.cycle keys with
        | .done next => attempts haltOnFault keys count next
        | .failure _ _ => []
        | .fault _ after =>
            if haltOnFault then []
            else attempts haltOnFault keys count after.stepOver

/-- The outcomes of frames that are played one after the other, whatever comes
of them. -/
def playEach (config : Config) : List KeySet → Machine → List FrameOutcome
  | [], _ => []
  | keys :: later, machine =>
      let outcome := playFrame config keys machine
      outcome :: playEach config later outcome.machine

def history (config : Config) : List KeySet → Machine → List (List Attempt)
  | [], _ => []
  | keys :: later, machine =>
      attempts config.haltOnFault keys config.instructionsPerFrame.toNat
          machine.countDown ::
        history config later (playFrame config keys machine).machine

/-- The settings of the timer in order, each with the number of its frame.  The
first frame has the given number. -/
def settings (timer : Timer) : Nat → List (List Attempt) → List (Nat × Int)
  | _, [] => []
  | number, frame :: later =>
      (frame.filterMap (Attempt.setting? timer)).map (Prod.mk number) ++
        settings timer (number + 1) later

/-- Steps a frame for each set of keys, whatever comes of the frames. -/
def stepEach {m : Type → Type} [Monad m]
    (notify : Event → m (Except Failure Unit)) (config : Config) :
    List KeySet → Session → m Session
  | [], session => return session
  | keys :: later, session => do
      let stepped ← session.stepFrame notify config keys
      stepEach notify config later stepped.1

/-- The instructions of a frame are its cycles that are done, and its faults
are those of its cycles. -/
theorem counts_playCycles
    (haltOnFault : Bool) (keys : KeySet) (count : Nat) (machine : Machine) :
    (playCycles haltOnFault keys count machine).instructions =
        (attempts haltOnFault keys count machine).countP Attempt.isDone ∧
      (playCycles haltOnFault keys count machine).faults =
        (attempts haltOnFault keys count machine).filterMap
          Attempt.fault? := by
  induction count generalizing machine with
  | zero => exact ⟨rfl, rfl⟩
  | succ count inductionHypothesis =>
      rw [playCycles, attempts, List.countP_cons, List.filterMap_cons]
      cases ended : machine.cycle keys with
      | done next =>
          have rest := inductionHypothesis next
          simp [Attempt.isDone, Attempt.fault?, rest]
      | failure failure after => simp [Attempt.isDone, Attempt.fault?]
      | fault fault after =>
          cases haltOnFault with
          | true => simp [Attempt.isDone, Attempt.fault?]
          | false =>
              have rest := inductionHypothesis after.stepOver
              simp [Attempt.isDone, Attempt.fault?, rest]

private theorem counts_playEach
    (config : Config) (keys : List KeySet) (machine : Machine) :
    ((playEach config keys machine).map FrameOutcome.instructions).sum =
        (history config keys machine).flatten.countP Attempt.isDone ∧
      (playEach config keys machine).flatMap FrameOutcome.faults =
        (history config keys machine).flatten.filterMap Attempt.fault? := by
  induction keys generalizing machine with
  | nil => exact ⟨rfl, rfl⟩
  | cons held later inductionHypothesis =>
      obtain ⟨firstInstructions, firstFaults⟩ :=
        counts_playCycles config.haltOnFault held
          config.instructionsPerFrame.toNat machine.countDown
      obtain ⟨laterInstructions, laterFaults⟩ :=
        inductionHypothesis (playFrame config held machine).machine
      rw [playEach, history, List.map_cons, List.sum_cons, List.flatMap_cons,
        List.flatten_cons, List.countP_append, List.filterMap_append,
        laterInstructions, laterFaults, ← firstInstructions, ← firstFaults]
      exact ⟨rfl, rfl⟩

/-! ## What a timer shows -/

theorem setting?_of_not_done
    {attempt : Attempt} (undone : attempt.isDone = false) (timer : Timer) :
    attempt.setting? timer = none := by
  refine if_neg ?_
  rintro ⟨done, _⟩
  cases undone.symm.trans done

private theorem setting?_nonnegative
    {attempt : Attempt} {timer : Timer} {value : Int}
    (sets : attempt.setting? timer = some value) :
    0 ≤ value := by
  unfold Attempt.setting? at sets
  split at sets
  · cases sets
    exact Int.natCast_nonneg _
  · cases sets

/-- A cycle that is done leaves the timer alone unless its word sets the
timer. -/
theorem value_of_done
    (timer : Timer) {machine next : Machine} {keys : KeySet}
    (done : machine.cycle keys = .done next) :
    timer.value next =
      ((⟨machine, .done next⟩ : Attempt).setting? timer).getD
        (timer.value machine) := by
  obtain ⟨_, executed⟩ := Machine.cycle_eq_done_iff.mp done
  obtain ⟨_, _, isNext⟩ := Machine.execute_eq_done_iff.mp executed
  by_cases sets : timer.Sets machine.wordAtCounter
  · have isSetter :
        machine.instructionAtCounter =
          timer.setter machine.wordAtCounter.x :=
      timer.ofWord_eq_setter_iff.mpr ⟨sets, rfl⟩
    rw [Attempt.setting?, if_pos ⟨rfl, sets⟩, isNext, isSetter,
      Timer.value_carryOut_setter]
    rfl
  · have noSetter :
        ∀ register,
          machine.instructionAtCounter ≠ timer.setter register := by
      intro register isSetter
      exact sets (timer.ofWord_eq_setter_iff.mp isSetter).1
    rw [Attempt.setting?, if_neg (fun both => sets both.2), isNext,
      Timer.value_carryOut_of_ne_setter noSetter, Timer.value_ready]
    rfl

private theorem getLast?_filterMap_cons
    {α β : Type} (f : α → Option β) (first : α) (rest : List α) (start : β) :
    ((first :: rest).filterMap f).getLast?.getD start =
      (rest.filterMap f).getLast?.getD ((f first).getD start) := by
  cases shape : f first <;>
    simp [shape, List.getLast?_cons]

/-- The cycles of a frame leave the timer at the latest value that it was set
to. -/
theorem value_playCycles
    (timer : Timer) (haltOnFault : Bool) (keys : KeySet) (count : Nat)
    (machine : Machine) :
    timer.value (playCycles haltOnFault keys count machine).machine =
      ((attempts haltOnFault keys count machine).filterMap
        (Attempt.setting? timer)).getLast?.getD (timer.value machine) := by
  induction count generalizing machine with
  | zero => rfl
  | succ count inductionHypothesis =>
      rw [playCycles, attempts, getLast?_filterMap_cons]
      cases ended : machine.cycle keys with
      | done next =>
          rw [← value_of_done timer ended]
          exact inductionHypothesis next
      | failure failure after =>
          rw [setting?_of_not_done rfl]
          obtain ⟨_, executed⟩ := Machine.cycle_eq_failure_iff.mp ended
          obtain ⟨_, _, rfl⟩ := Machine.execute_eq_failure_iff.mp executed
          exact timer.value_ready machine keys
      | fault fault after =>
          rw [setting?_of_not_done rfl]
          obtain ⟨rfl, _⟩ := Machine.cycle_eq_fault_iff.mp ended
          cases haltOnFault with
          | true => rfl
          | false =>
              have passedOver :
                  timer.value after.stepOver = timer.value after := by
                cases timer <;> rfl
              rw [Option.getD_none, ← passedOver]
              exact inductionHypothesis after.stepOver

theorem value_playFrame
    (timer : Timer) (config : Config) (keys : KeySet) (machine : Machine) :
    timer.value (playFrame config keys machine).machine =
      ((attempts config.haltOnFault keys config.instructionsPerFrame.toNat
        machine.countDown).filterMap
          (Attempt.setting? timer)).getLast?.getD
            (max (timer.value machine - 1) 0) := by
  rw [playFrame, value_playCycles, Timer.value_countDown]

/-- A timer that is not set counts down to zero. -/
theorem value_of_unset
    {timer : Timer} {config : Config} {keys : List KeySet} {machine : Machine}
    {number : Nat} (nonnegative : 0 ≤ timer.value machine)
    (unset : settings timer number (history config keys machine) = []) :
    timer.value (lastMachine (playEach config keys machine) machine) =
      max (timer.value machine - keys.length) 0 := by
  induction keys generalizing machine number with
  | nil =>
      simp only [playEach, lastMachine, List.length_nil]
      omega
  | cons held later inductionHypothesis =>
      rw [history, settings, List.append_eq_nil_iff,
        List.map_eq_nil_iff] at unset
      have afterFirst := value_playFrame timer config held machine
      rw [unset.1, List.getLast?_nil, Option.getD_none] at afterFirst
      have rest := inductionHypothesis (by omega) unset.2
      rw [playEach, lastMachine, rest, afterFirst, List.length_cons]
      omega

/-- A timer counts down from the latest value that it was set to, one for each
frame behind the one of the setting. -/
theorem value_of_lastSetting
    {timer : Timer} {config : Config} {keys : List KeySet} {machine : Machine}
    {first number : Nat} {value : Int}
    (lastSetting :
      (settings timer first (history config keys machine)).getLast? =
        some (number, value)) :
    timer.value (lastMachine (playEach config keys machine) machine) =
      max (value - (first + keys.length - 1 - number)) 0 := by
  induction keys generalizing machine first with
  | nil => cases lastSetting
  | cons held later inductionHypothesis =>
      rw [history, settings, List.getLast?_append] at lastSetting
      rw [playEach, lastMachine, List.length_cons]
      cases laterSetting :
          (settings timer (first + 1)
            (history config later
              (playFrame config held machine).machine)).getLast? with
      | some entry =>
          rw [laterSetting, Option.some_or] at lastSetting
          rw [inductionHypothesis (laterSetting.trans lastSetting)]
          omega
      | none =>
          rw [laterSetting, Option.none_or, List.getLast?_map,
            Option.map_eq_some_iff] at lastSetting
          obtain ⟨set, isLast, isEntry⟩ := lastSetting
          obtain ⟨rfl, rfl⟩ := Prod.mk.inj isEntry
          have afterFirst := value_playFrame timer config held machine
          rw [isLast, Option.getD_some] at afterFirst
          obtain ⟨attempt, _, sets⟩ :=
            List.mem_filterMap.mp (List.mem_of_getLast? isLast)
          have nonnegative := setting?_nonnegative sets
          rw [value_of_unset (afterFirst ▸ nonnegative)
            (List.getLast?_eq_none_iff.mp laterSetting), afterFirst]
          omega

/-! ## Machines that differ in a channel -/

/-- The frames differ in a channel of the machine at most. -/
structure FrameOutcome.AgreeOff (channel : Channel)
    (first second : FrameOutcome) : Prop where
  machine : channel.Agree first.machine second.machine
  instructions : first.instructions = second.instructions
  faults : first.faults = second.faults
  course : first.course = second.course

private theorem agreeOff_playCycles
    {channel : Channel} {first second : Machine} {haltOnFault : Bool}
    {keys : KeySet} {count : Nat} (agree : channel.Agree first second)
    (unread : ∀ attempt ∈ attempts haltOnFault keys count first,
      ¬ channel.ReadBy attempt.response) :
    (playCycles haltOnFault keys count first).AgreeOff channel
      (playCycles haltOnFault keys count second) := by
  induction count generalizing first second with
  | zero => exact ⟨agree, rfl, rfl, rfl⟩
  | succ count inductionHypothesis =>
      rw [attempts] at unread
      obtain ⟨firstUnread, laterUnread⟩ := List.forall_mem_cons.mp unread
      have outcomesAgree :
          channel.OutcomesAgree (first.cycle keys) (second.cycle keys) :=
        (agree.respond (.cycle (.inl rfl)) firstUnread).outcome
      rw [playCycles, playCycles]
      generalize first.cycle keys = outcome at outcomesAgree laterUnread ⊢
      generalize second.cycle keys = otherOutcome at outcomesAgree ⊢
      cases outcomesAgree with
      | done nextAgree =>
          have rest := inductionHypothesis nextAgree laterUnread
          exact ⟨rest.machine, congrArg (· + 1) rest.instructions, rest.faults,
            rest.course⟩
      | failure failure nextAgree => exact ⟨nextAgree, rfl, rfl, rfl⟩
      | fault fault nextAgree =>
          cases haltOnFault with
          | true => exact ⟨nextAgree, rfl, rfl, rfl⟩
          | false =>
              have rest := inductionHypothesis nextAgree.stepOver laterUnread
              exact ⟨rest.machine, rest.instructions,
                congrArg (List.cons fault) rest.faults, rest.course⟩

/-- Frames that do not read the channel play alike. -/
theorem agreeOff_playEach
    {channel : Channel} {config : Config} {keys : List KeySet}
    {first second : Machine} (agree : channel.Agree first second)
    (unread : ∀ attempt ∈ (history config keys first).flatten,
      ¬ channel.ReadBy attempt.response) :
    List.Forall₂ (FrameOutcome.AgreeOff channel) (playEach config keys first)
      (playEach config keys second) := by
  induction keys generalizing first second with
  | nil => exact .nil
  | cons held later inductionHypothesis =>
      rw [history, List.flatten_cons, List.forall_mem_append] at unread
      obtain ⟨firstUnread, laterUnread⟩ := unread
      have firstAgree :
          (playFrame config held first).AgreeOff channel
            (playFrame config held second) :=
        agreeOff_playCycles agree.countDown firstUnread
      exact .cons firstAgree
        (inductionHypothesis firstAgree.machine laterUnread)

/-! ## Frames that are stepped -/

private theorem follows_stepEach
    {m : Type → Type} [Monad m] [LawfulMonad m] {devices : Devices m}
    (config : Config) (keys : List KeySet) (session : Session) :
    Follows (stepEach devices.recording.notify config keys session)
      (stepEach devices.notify config keys session)
      fun added final =>
        (∃ record ∈ added, record.failure? ≠ none) ∨
          (let frames := playEach config keys session.machine
          final = frames.foldl after session ∧
            added =
              faultRecords session.stats.frames
                (frames.flatMap FrameOutcome.faults)) := by
  induction keys generalizing session with
  | nil => exact .of_pure (.inr ⟨rfl, rfl⟩)
  | cons held later inductionHypothesis =>
      unfold stepEach
      refine (follows_stepFrame config held session).bind ?_
      intro added stepped frame
      refine (inductionHypothesis stepped.1).weaken ?_
      intro rest final frames
      rcases frame with ⟨failure, _, broken⟩ | ⟨rfl, rfl⟩
      · obtain ⟨earlier, latest, rfl, _, _, fails⟩ := broken
        exact .inl ⟨latest, by simp, by simp [fails]⟩
      rcases frames with ⟨record, belongs, fails⟩ | ⟨rfl, rfl⟩
      · exact .inl ⟨record, List.mem_append_right _ belongs, fails⟩
      · refine .inr ⟨rfl, ?_⟩
        rw [playEach, List.flatMap_cons, faultRecords_append]
        rfl

private theorem machine_foldl_after
    (frames : List FrameOutcome) (session : Session) :
    (frames.foldl after session).machine =
      lastMachine frames session.machine := by
  induction frames generalizing session with
  | nil => rfl
  | cons first rest inductionHypothesis =>
      exact inductionHypothesis (session.after first)

private theorem instructions_foldl_after
    (frames : List FrameOutcome) (session : Session) :
    (frames.foldl after session).stats.instructions =
      session.stats.instructions +
        (frames.map FrameOutcome.instructions).sum := by
  induction frames generalizing session with
  | nil => rfl
  | cons first rest inductionHypothesis =>
      rw [List.foldl_cons, inductionHypothesis, List.map_cons, List.sum_cons,
        ← Nat.add_assoc]
      rfl

/-- A timer is counted down from the latest value that it was set to, by one
for each frame since, or from its value at the start if it was not set.  The
settings are those of the frames that were stepped: their cycles are the
instructions counted and the faults told.  The sound timer has no effect on
anything else, and the delay timer has none unless a word reads it. -/
theorem timers_count_from_lastSetting
    (config : Config) (keys : List KeySet) {machine : Machine}
    (delay : 0 ≤ machine.delayTimer) (sound : 0 ≤ machine.soundTimer) :
    (∀ {σ : Type} (devices : Devices (StateM σ)) (stats : Stats)
      (world after : σ) (final : Session) (records : List Record),
      ((stepEach devices.recording.notify config keys
          { machine := machine, stats := stats }).run []).run world =
        ((final, records), after) →
      (∀ record ∈ records, record.failure? = none) →
      (stepEach devices.notify config keys
          { machine := machine, stats := stats }).run world =
        (final, after) ∧
      final.stats.instructions =
        stats.instructions +
          (history config keys machine).flatten.countP Attempt.isDone ∧
      records.filterMap Record.fault? =
        (history config keys machine).flatten.filterMap Attempt.fault? ∧
      ∀ timer : Timer,
        (∀ number value,
          (settings timer 1 (history config keys machine)).getLast? =
            some (number, value) →
          timer.value final.machine =
            max (value - (keys.length - number)) 0) ∧
        (settings timer 1 (history config keys machine) = [] →
          timer.value final.machine =
            max (timer.value machine - keys.length) 0)) ∧
    (∀ other, Channel.soundTimer.Agree machine other →
      List.Forall₂ (FrameOutcome.AgreeOff .soundTimer)
        (playEach config keys machine) (playEach config keys other)) ∧
    (∀ other, Channel.delayTimer.Agree machine other →
      (∀ attempt ∈ (history config keys machine).flatten,
        ¬ Channel.delayTimer.ReadBy attempt.response) →
      List.Forall₂ (FrameOutcome.AgreeOff .delayTimer)
        (playEach config keys machine) (playEach config keys other)) := by
  refine ⟨?_, ?_, ?_⟩
  · intro σ devices stats world after final records stepped unbroken
    obtain ⟨sameSteps, course⟩ :=
      (follows_stepEach config keys _).of_run stepped
    rcases course with ⟨record, belongs, fails⟩ | ⟨rfl, rfl⟩
    · exact absurd (unbroken record belongs) fails
    obtain ⟨instructions, faults⟩ := counts_playEach config keys machine
    refine ⟨sameSteps, ?_, ?_, ?_⟩
    · rw [instructions_foldl_after, instructions]
    · rw [faults_faultRecords, faults]
    · intro timer
      rw [machine_foldl_after]
      refine ⟨?_, ?_⟩
      · intro number value lastSetting
        rw [value_of_lastSetting lastSetting]
        omega
      · intro unset
        have nonnegative : 0 ≤ timer.value machine := by
          cases timer with
          | delay => exact delay
          | sound => exact sound
        exact value_of_unset nonnegative unset
  · intro other agree
    refine agreeOff_playEach agree ?_
    intro attempt _ readBy
    obtain ⟨⟨_, _, reads⟩, _⟩ := readBy
    exact reads
  · intro other agree unread
    exact agreeOff_playEach agree unread

/-- A machine that sets its delay timer, returns without having been called,
sets its sound timer and stays where it is. -/
def ticking : Machine :=
  { Machine.initial .absent none with
    memory := (Bytes.zeros memorySize).overwrite 0
      [0x60, 0x05, 0xF0, 0x15, 0x00, 0xEE, 0xF0, 0x18, 0x10, 0x08]
    counter := 0
    delayTimer := 9
    soundTimer := 1 }

def tickingConfig (haltOnFault : Bool) : Config :=
  { instructionsPerFrame := 3, haltOnFault := haltOnFault }

/-- Three frames, with a key in the second one. -/
def tickingKeys : List KeySet := [∅, .singleton 3, ∅]

def tickingRun (haltOnFault : Bool) : (Session × List Record) × Unit :=
  ((stepEach idle.recording.notify (tickingConfig haltOnFault) tickingKeys
    { machine := ticking }).run []).run ()

/-- The delay timer is set in the first frame.  The sound timer is set in the
second frame if the fault at the end of the first one is stepped over, and
never if it halts the frames. -/
theorem timers_count_from_lastSetting_ticking :
    (tickingRun false).1.1.machine.delayTimer = 3 ∧
      (tickingRun false).1.1.machine.soundTimer = 4 ∧
      (tickingRun true).1.1.machine.delayTimer = 3 ∧
      (tickingRun true).1.1.machine.soundTimer = 0 ∧
      List.Forall₂ (FrameOutcome.AgreeOff .delayTimer)
        (playEach (tickingConfig false) tickingKeys ticking)
        (playEach (tickingConfig false) tickingKeys
          { ticking with delayTimer := 200 }) := by
  have delay : 0 ≤ ticking.delayTimer := by decide
  have sound : 0 ≤ ticking.soundTimer := by decide
  have unbroken (haltOnFault : Bool) :
      ∀ record ∈ (tickingRun haltOnFault).1.2, record.failure? = none := by
    cases haltOnFault <;> decide +kernel
  obtain ⟨overTimers, _, overAgree⟩ :=
    timers_count_from_lastSetting (tickingConfig false) tickingKeys delay sound
  obtain ⟨haltedTimers, _⟩ :=
    timers_count_from_lastSetting (tickingConfig true) tickingKeys delay sound
  obtain ⟨_, _, _, overValues⟩ :=
    overTimers idle {} () _ _ _ (recorded_eta (tickingRun false)) (unbroken false)
  obtain ⟨_, _, _, haltedValues⟩ :=
    haltedTimers idle {} () _ _ _ (recorded_eta (tickingRun true)) (unbroken true)
  refine ⟨?_, ?_, ?_, ?_, ?_⟩
  · exact (overValues .delay).1 1 5 (by decide +kernel)
  · exact (overValues .sound).1 2 5 (by decide +kernel)
  · exact (haltedValues .delay).1 1 5 (by decide +kernel)
  · exact (haltedValues .sound).2 (by decide +kernel)
  · refine overAgree _ rfl ?_
    have unread :
        ∀ attempt ∈
            (history (tickingConfig false) tickingKeys ticking).flatten,
          ∀ word ∈ attempt.response.word, word.nn ≠ 0x07 := by
      decide +kernel
    intro attempt belongs readBy
    obtain ⟨⟨word, isWord, reads⟩, _⟩ := readBy
    exact unread attempt belongs word isWord reads.2

/-- A machine that reads its delay timer and sets its sound timer to what it has
read. -/
def relaying (delay : Int) : Machine :=
  { Machine.initial .absent none with
    memory := (Bytes.zeros memorySize).overwrite 0 [0xF0, 0x07, 0xF0, 0x18]
    counter := 0
    delayTimer := delay }

def relayingRun (delay : Int) : Session × Unit :=
  (stepEach idle.notify { instructionsPerFrame := 2 } [∅]
    { machine := relaying delay }).run ()

/-- Two machines that differ in their delay timers alone differ in their sound
timers behind the first frame. -/
theorem delay_reaches_sound :
    Channel.delayTimer.Agree (relaying 9) (relaying 200) ∧
      (relayingRun 9).1.machine.soundTimer = 8 ∧
      (relayingRun 200).1.machine.soundTimer = 199 := by
  refine ⟨rfl, ?_, ?_⟩
  · decide +kernel
  · decide +kernel

end Session

end Chip8
