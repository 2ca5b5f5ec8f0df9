import Chip8.Proofs.FaultStability

/-!
# Frames stepped one by one

The frames of a session can be stepped without a front-end, with keys given
from outside.  What is left is the session after the outcomes of the frames,
and the observers are told of the faults of all frames in order.  `Totals` says
the same of a new session, whether its frames are stepped or run.
-/

namespace Chip8.Session

/-- Steps frames with the given keys, up to the first one that ends the
session. -/
def stepFrames {m : Type → Type} [Monad m]
    (notify : Event → m (Except Failure Unit)) (config : Config) :
    List KeySet → Session → m (Session × Course)
  | [], session => return (session, .goesOn)
  | keys :: later, session => do
      match ← session.stepFrame notify config keys with
      | (stepped, .goesOn) => stepFrames notify config later stepped
      | ended => return ended

/-- The course of frames, which is that of the first one that ends the
session. -/
def courseAfter : List FrameOutcome → Course
  | [] => .goesOn
  | outcome :: later =>
      match outcome.course with
      | .goesOn => courseAfter later
      | ended => ended

theorem courseAfter_of_goesOn
    {frames : List FrameOutcome}
    (allGo : ∀ outcome ∈ frames, outcome.course = .goesOn) :
    courseAfter frames = .goesOn := by
  induction frames with
  | nil => rfl
  | cons first rest inductionHypothesis =>
      obtain ⟨firstGoes, restGo⟩ := List.forall_mem_cons.mp allGo
      rw [courseAfter, firstGoes]
      exact inductionHypothesis restGo

theorem faultRecords_append
    (frames : Nat) (earlier later : List Fault) :
    faultRecords frames (earlier ++ later) =
      faultRecords frames earlier ++ faultRecords frames later :=
  List.map_append

/-- Cycles without faults have nothing to tell. -/
theorem runCycles_of_faultless
    {m : Type → Type} [Monad m]
    (notify : Event → m (Except Failure Unit)) {haltOnFault : Bool}
    {keys : KeySet} {count : Nat} {session : Session}
    (faultless :
      (playCycles haltOnFault keys count session.machine).faults = []) :
    runCycles notify haltOnFault keys count session =
      pure
        (session.after (playCycles haltOnFault keys count session.machine),
          (playCycles haltOnFault keys count session.machine).course) := by
  induction count generalizing session with
  | zero =>
      rw [runCycles, playCycles, after_idle]
  | succ count inductionHypothesis =>
      unfold runCycles
      unfold playCycles at faultless ⊢
      cases ended : session.machine.cycle keys with
      | done next =>
          simp only [ended] at faultless ⊢
          rw [inductionHypothesis faultless, after_done]
      | failure failure next =>
          exact congrArg pure
            (Prod.ext (session.after_failure next failure) rfl)
      | fault fault next =>
          cases haltOnFault with
          | true => simp [ended] at faultless
          | false => simp [ended] at faultless

variable {m : Type → Type} [Monad m] [LawfulMonad m] {devices : Devices m}

private theorem follows_stepFrames
    (config : Config) (keys : List KeySet) (session : Session) :
    Follows (stepFrames devices.recording.notify config keys session)
      (stepFrames devices.notify config keys session)
      fun added result =>
        (∃ failure, result.2 = .failed failure ∧ BrokenOff added failure) ∨
          (let frames := outcomes config keys session.machine
          result = (frames.foldl after session, courseAfter frames) ∧
            added =
              faultRecords session.stats.frames
                (frames.flatMap FrameOutcome.faults)) := by
  induction keys generalizing session with
  | nil => exact .of_pure (.inr ⟨rfl, rfl⟩)
  | cons held later inductionHypothesis =>
      unfold stepFrames
      refine (follows_stepFrame config held session).bind ?_
      intro added result frame
      obtain ⟨stepped, course⟩ := result
      rcases frame with ⟨failure, failed, broken⟩ | ⟨isStepped, rfl⟩
      · simp only at failed
        subst failed
        refine .of_pure (.inl ⟨failure, rfl, ?_⟩)
        rwa [List.append_nil]
      · obtain ⟨rfl, rfl⟩ := Prod.mk.inj isStepped
        cases course : (playFrame config held session.machine).course with
        | halted | failed _ =>
            refine .of_pure (.inr ?_)
            simp [outcomes, course, courseAfter]
        | goesOn =>
            refine (inductionHypothesis _).weaken ?_
            intro rest final frames
            rcases frames with ⟨failure, failed, broken⟩ | ⟨isFinal, isRest⟩
            · exact .inl ⟨failure, failed,
                broken.append (smooth_faultRecords _ _)⟩
            · refine .inr ?_
              simp only [outcomes, course, List.foldl_cons, courseAfter,
                List.flatMap_cons, faultRecords_append]
              exact ⟨isFinal, by rw [isRest]; rfl⟩

/-- So do frames without faults. -/
theorem stepFrames_of_faultless
    (notify : Event → m (Except Failure Unit)) (config : Config)
    {keys : List KeySet} {session : Session}
    (faultless :
      ∀ outcome ∈ outcomes config keys session.machine, outcome.faults = []) :
    stepFrames notify config keys session =
      pure
        ((outcomes config keys session.machine).foldl after session,
          courseAfter (outcomes config keys session.machine)) := by
  induction keys generalizing session with
  | nil => rfl
  | cons held later inductionHypothesis =>
      have firstFaultless :
          (playFrame config held session.machine).faults = [] := by
        apply faultless
        simp only [outcomes]
        split <;> exact List.mem_cons_self
      have stepped :
          session.stepFrame notify config held =
            pure
              (session.after (playFrame config held session.machine),
                (playFrame config held session.machine).course) :=
        runCycles_of_faultless notify firstFaultless
      rw [stepFrames, stepped, pure_bind]
      simp only [outcomes] at faultless ⊢
      cases course : (playFrame config held session.machine).course with
      | halted | failed _ => simp [course, courseAfter]
      | goesOn =>
          simp only [course] at faultless
          have laterFaultless := (List.forall_mem_cons.mp faultless).2
          simp only [course, List.foldl_cons, courseAfter]
          exact inductionHypothesis laterFaultless

/-! ## Frames taken together -/

private theorem after_after
    (session : Session) {first : FrameOutcome} (second : FrameOutcome)
    (goesOn : first.course = .goesOn) :
    (session.after first).after second =
      session.after
        { machine := second.machine
          instructions := first.instructions + second.instructions
          faults := first.faults ++ second.faults
          course := second.course } := by
  simp [after, Stats.after, goesOn, Nat.add_assoc, List.head?_append,
    List.getLast?_append, Option.or_assoc]

/-- Frames that go on lead to the same session as one long frame. -/
theorem foldl_after_of_goesOn
    (session : Session) {frames : List FrameOutcome}
    (allGo : ∀ outcome ∈ frames, outcome.course = .goesOn) :
    frames.foldl after session =
      session.after
        { machine := lastMachine frames session.machine
          instructions := (frames.map FrameOutcome.instructions).sum
          faults := frames.flatMap FrameOutcome.faults } := by
  induction frames generalizing session with
  | nil => exact session.after_idle.symm
  | cons first rest inductionHypothesis =>
      obtain ⟨firstGoes, restGo⟩ := List.forall_mem_cons.mp allGo
      rw [List.foldl_cons, inductionHypothesis _ restGo,
        after_after _ _ firstGoes]
      rfl

/-! ## Frames with a closed form -/

/-- Frames that go on have the closed form `form` if it gives the first frame
of every machine of a class that the frames do not leave, and if the form of
what comes behind the first frame is that of the frames behind the first. -/
theorem outcomes_of_form
    {config : Config} {Kept : Machine → Prop} {Allowed : KeySet → Prop}
    {form : Machine → Nat → FrameOutcome}
    (first : ∀ machine held, Kept machine → Allowed held →
      playFrame config held machine = form machine 0)
    (goesOn : ∀ machine number, (form machine number).course = .goesOn)
    (stays : ∀ machine, Kept machine → Kept (form machine 0).machine)
    (shift : ∀ machine number,
      form (form machine 0).machine number = form machine (number + 1))
    {machine : Machine} (kept : Kept machine)
    {keys : List KeySet} (allowed : ∀ held ∈ keys, Allowed held) :
    outcomes config keys machine =
      (List.range keys.length).map (form machine) := by
  induction keys generalizing machine with
  | nil => rfl
  | cons held later inductionHypothesis =>
      obtain ⟨firstAllowed, laterAllowed⟩ := List.forall_mem_cons.mp allowed
      have rest := inductionHypothesis (stays machine kept) laterAllowed
      have shifted :
          form (form machine 0).machine = form machine ∘ Nat.succ :=
        funext (shift machine)
      rw [List.length_cons, List.range_succ_eq_map, List.map_cons,
        List.map_map, outcomes, first machine held kept firstAllowed]
      simp only [goesOn, rest, shifted]

theorem lastMachine_map_range
    (form : Nat → FrameOutcome) (machine : Machine) (number : Nat) :
    lastMachine ((List.range (number + 1)).map form) machine =
      (form number).machine := by
  rw [List.range_succ, List.map_append, lastMachine_append]
  rfl

/-! ## The totals of a new session -/

/-- A session that started new holds the sums over its frames, and the faults
on record are theirs. -/
structure Totals (machine : Machine) (frames : List FrameOutcome)
    (session : Session) (records : List Record) : Prop where
  machine : session.machine = lastMachine frames machine
  instructions :
    session.stats.instructions = (frames.map FrameOutcome.instructions).sum
  faultCount :
    session.stats.faultCount = (frames.flatMap FrameOutcome.faults).length
  firstFault :
    session.stats.firstFault = (frames.flatMap FrameOutcome.faults).head?
  lastFault :
    session.stats.lastFault = (frames.flatMap FrameOutcome.faults).getLast?
  faults :
    records.filterMap Record.fault? = frames.flatMap FrameOutcome.faults

@[simp]
theorem faults_faultRecords (frames : Nat) (faults : List Fault) :
    (faultRecords frames faults).filterMap Record.fault? = faults := by
  simp [faultRecords, List.filterMap_map, Function.comp_def, Record.fault?]

theorem faults_openRecords
    (keys : KeySet) (session : Session) (outcome : FrameOutcome) :
    (openRecords keys session outcome).filterMap Record.fault? =
      outcome.faults :=
  faults_faultRecords session.stats.frames outcome.faults

theorem faults_frameRecords
    (keys : KeySet) (session : Session) (outcome : FrameOutcome)
    (elapsed : Float) :
    (frameRecords keys session outcome elapsed).filterMap Record.fault? =
      outcome.faults := by
  rw [frameRecords, List.filterMap_append, faults_openRecords]
  exact List.append_nil _

private theorem faults_framed
    (config : Config) (between : List Record) (result : Result) :
    (openingRecords config ++ between ++
        .released :: result.farewell).filterMap Record.fault? =
      between.filterMap Record.fault? := by
  cases ending : result.ending <;>
    simp [openingRecords, Result.farewell, ending, List.filterMap_cons,
      Record.fault?]

/-- The faults on record are those of the frames. -/
theorem Played.faults
    {config : Config} {limit : Option Int} {given : Nat}
    {session final : Session} {records : List Record} {ending : Ending}
    (played : Played config limit given session records final ending) :
    records.filterMap Record.fault? =
      (framesSeen config records session.machine).flatMap
        FrameOutcome.faults := by
  induction played with
  | complete _ => rfl
  | stopped _ => rfl
  | halted _ halts =>
      rw [framesSeen_halted halts, faults_frameRecords]
      exact (List.append_nil _).symm
  | failed _ fails =>
      rw [framesSeen_failed fails, faults_openRecords]
      exact (List.append_nil _).symm
  | next _ goesOn _ inductionHypothesis =>
      rw [framesSeen_next _ goesOn, List.filterMap_append,
        faults_frameRecords, inductionHypothesis]
      rfl

theorem Played.totals
    {config : Config} {limit : Option Int} {machine : Machine}
    {final : Session} {records : List Record} {ending : Ending}
    (played :
      Played config limit 0 { machine := machine } records final ending) :
    Totals machine (framesSeen config records machine) final records where
  machine := played.machine
  instructions := played.instructions.trans (Nat.zero_add _)
  faultCount := played.faultCount.trans (Nat.zero_add _)
  firstFault := played.firstFault.trans Option.none_or
  lastFault := played.lastFault.trans Option.or_none
  faults := played.faults

private theorem totals_foldl_after
    (machine : Machine) {frames : List FrameOutcome}
    (allGo : ∀ outcome ∈ frames, outcome.course = .goesOn) :
    Totals machine frames (frames.foldl after { machine := machine })
      (faultRecords 0 (frames.flatMap FrameOutcome.faults)) := by
  rw [foldl_after_of_goesOn _ allGo]
  exact
    { machine := rfl
      instructions := Nat.zero_add _
      faultCount := Nat.zero_add _
      firstFault := Option.none_or
      lastFault := Option.or_none
      faults := faults_faultRecords 0 _ }

/-- Frames that go on, stepped in a new session, leave their totals unless an
observer fails. -/
theorem totals_of_stepFrames
    {σ : Type} (devices : Devices (StateM σ)) (config : Config)
    (keys : List KeySet) (machine : Machine) {world after : σ}
    {result : Session × Course} {records : List Record}
    (stepped :
      ((stepFrames devices.recording.notify config keys
          { machine := machine }).run []).run world =
        ((result, records), after))
    (unbroken : ∀ record ∈ records, record.failure? = none)
    (allGo :
      ∀ outcome ∈ outcomes config keys machine, outcome.course = .goesOn) :
    (stepFrames devices.notify config keys { machine := machine }).run world =
        (result, after) ∧
      result.2 = .goesOn ∧
      Totals machine (outcomes config keys machine) result.1 records := by
  obtain ⟨sameSteps, course⟩ := (follows_stepFrames config keys _).of_run stepped
  refine ⟨sameSteps, ?_⟩
  rcases course with ⟨failure, _, broken⟩ | ⟨rfl, rfl⟩
  · obtain ⟨earlier, latest, rfl, _, _, fails⟩ := broken
    have works := unbroken latest (by simp)
    cases works.symm.trans fails
  · exact ⟨courseAfter_of_goesOn allGo, totals_foldl_after machine allGo⟩

/-- A run with a limit whose frames go on is complete and leaves their totals,
unless a device fails or the front-end asks to stop. -/
theorem totals_of_run_seen
    {σ : Type} (devices : Devices (StateM σ)) (config : Config)
    {most : Int} (nonnegative : 0 ≤ most) (progress : Bool) (patience : Nat)
    (machine : Machine) {world after : σ} {result : Result}
    {records : List Record} {duration : Float}
    (rate : frameDuration config.fps = .ok duration)
    (ran :
      ((run devices.recording config (some most) progress patience
          { machine := machine }).run []).run world =
        ((result, records), after))
    (unbroken : ∀ record ∈ records, record.failure? = none)
    (unasked : .asked (.ok none) ∉ records)
    (allGo :
      ∀ outcome ∈ outcomes config (records.filterMap Record.keys?) machine,
        outcome.course = .goesOn) :
    (run devices config (some most) progress patience
        { machine := machine }).run world = (result, after) ∧
      result.ending = .complete ∧
      result.session.stats.frames = most.toNat ∧
      (records.filterMap Record.keys?).length = most.toNat ∧
      Totals machine
        (outcomes config (records.filterMap Record.keys?) machine)
        result.session records := by
  obtain ⟨sameRun, course⟩ :=
    (follows_run devices config _ progress patience _).of_run ran
  refine ⟨sameRun, ?_⟩
  rcases course with ⟨failure, _, aborted⟩ | ⟨unlimited, _⟩ |
    ⟨between, final, elapsed, played, isSession, rfl⟩
  · rcases aborted.exists_failing with tooFast | ⟨record, belongs, fails⟩
    · cases rate.symm.trans tooFast
    · cases (unbroken record belongs).symm.trans fails
  · cases unlimited
  rw [asked_none_mem_framed] at unasked
  rw [keys_framed] at allGo ⊢
  rw [isSession]
  have goesThrough :
      endingAfter (framesSeen config between machine) = .complete :=
    endingAfter_of_goesOn allGo
  have complete : result.ending = .complete := by
    have ends := played.endingAfter_framesSeen
    by_cases stopped : result.ending = .stopped
    · rw [stopped] at played
      exact absurd played.asked_of_stopped unasked
    · rw [if_neg stopped] at ends
      exact ends.symm.trans goesThrough
  have allFrames :
      (framesSeen config between machine).length = most.toNat := by
    have fewer := played.length_le nonnegative
    rw [complete] at played
    have enough := played.le_length
    simp only at fewer enough
    omega
  have noFailure : ∀ failure, result.ending ≠ .failed failure := by
    simp [complete]
  have totals := played.totals
  refine ⟨complete, ?_, played.length_keys.trans allFrames, ?_⟩
  · exact (played.frames noFailure).trans ((Nat.zero_add _).trans allFrames)
  · exact
      { machine := totals.machine
        instructions := totals.instructions
        faultCount := totals.faultCount
        firstFault := totals.firstFault
        lastFault := totals.lastFault
        faults := (faults_framed config between result).trans totals.faults }

/-- The same for a machine whose frames go on whatever keys are held. -/
theorem totals_of_run
    {σ : Type} (devices : Devices (StateM σ)) (config : Config)
    {most : Int} (nonnegative : 0 ≤ most) (progress : Bool) (patience : Nat)
    (machine : Machine) {world after : σ} {result : Result}
    {records : List Record} {duration : Float}
    (rate : frameDuration config.fps = .ok duration)
    (ran :
      ((run devices.recording config (some most) progress patience
          { machine := machine }).run []).run world =
        ((result, records), after))
    (unbroken : ∀ record ∈ records, record.failure? = none)
    (unasked : .asked (.ok none) ∉ records)
    (allGo : ∀ keys, ∀ outcome ∈ outcomes config keys machine,
      outcome.course = .goesOn) :
    (run devices config (some most) progress patience
        { machine := machine }).run world = (result, after) ∧
      result.ending = .complete ∧
      result.session.stats.frames = most.toNat ∧
      (records.filterMap Record.keys?).length = most.toNat ∧
      Totals machine
        (outcomes config (records.filterMap Record.keys?) machine)
        result.session records :=
  totals_of_run_seen devices config nonnegative progress patience machine rate
    ran unbroken unasked (allGo _)

end Chip8.Session
