import Chip8.Proofs.FrameOutcome
import Chip8.Proofs.Recording

/-!
# The trace of a session

`Played` says what a loop over frames can do as long as no device fails: the
frames are used up, the front-end asks to stop, a frame is halted by a fault, a
frame fails, or a frame is played and the loop goes on.  Each complete frame
leaves the records of one reading of the keys, its faults, one drawing and its
report.  The loop follows this relation on all devices until one of them fails,
and `run` frames its records by those of the start and the end.
-/

namespace Chip8.Session

/-- The counters after a frame with the given outcome, before the frame itself
is counted. -/
def Stats.after (stats : Stats) (outcome : FrameOutcome) : Stats :=
  { stats with
    instructions := stats.instructions + outcome.instructions
    faultCount := stats.faultCount + outcome.faults.length
    firstFault := stats.firstFault.or outcome.faults.head?
    lastFault := outcome.faults.getLast?.or stats.lastFault
    halted := stats.halted || decide (outcome.course = .halted) }

def after (session : Session) (outcome : FrameOutcome) : Session where
  machine := outcome.machine
  stats := session.stats.after outcome

def counted (session : Session) (elapsed : Float) : Session :=
  { session with
    stats :=
      { session.stats with
        frames := session.stats.frames + 1
        elapsed := elapsed } }

def faultRecords (frames : Nat) (faults : List Fault) : List Record :=
  faults.map fun fault => .told (.fault frames fault) (.ok ())

theorem smooth_faultRecords
    (frames : Nat) (faults : List Fault) :
    Smooth (faultRecords frames faults) := by
  intro record belongs
  obtain ⟨fault, _, rfl⟩ := List.mem_map.mp belongs
  exact ⟨rfl, rfl⟩

@[simp]
theorem after_idle (session : Session) :
    session.after { machine := session.machine } = session := by
  simp [after, Stats.after]

theorem after_failure
    (session : Session) (next : Machine) (failure : Failure) :
    ({ session with machine := next } : Session) =
      session.after { machine := next, course := .failed failure } := by
  simp [after, Stats.after]

theorem after_done
    (session : Session) (next : Machine) (rest : FrameOutcome) :
    ({ machine := next, stats := session.stats.countInstruction } :
        Session).after rest =
      session.after { rest with instructions := rest.instructions + 1 } := by
  simp only [after, Stats.after, Stats.countInstruction, Nat.add_assoc,
    Nat.add_comm 1]

private theorem after_fault
    (session : Session) (next : Machine) (fault : Fault)
    (rest : FrameOutcome) :
    ({ machine := next, stats := session.stats.record fault } :
        Session).after rest =
      session.after { rest with faults := fault :: rest.faults } := by
  have first :
      (some (session.stats.firstFault.getD fault)).or rest.faults.head? =
        session.stats.firstFault.or (some fault) := by
    cases session.stats.firstFault <;> rfl
  have last :
      rest.faults.getLast?.or (some fault) =
        (fault :: rest.faults).getLast?.or session.stats.lastFault := by
    rw [List.getLast?_cons]
    cases rest.faults.getLast? <;> rfl
  simp only [after, Stats.after, Stats.record, first, last, List.length_cons,
    List.head?_cons, Nat.add_assoc, Nat.add_comm 1]

private theorem after_halt
    (session : Session) (next : Machine) (fault : Fault) :
    ({ machine := next,
       stats := { session.stats.record fault with halted := true } } :
        Session) =
      session.after
        { machine := next, faults := [fault], course := .halted } := by
  simp [after, Stats.after, Stats.record]

/-! ## One frame -/

variable {m : Type → Type} [Monad m] [LawfulMonad m] {devices : Devices m}

private theorem follows_runCycles
    (haltOnFault : Bool) (keys : KeySet) (count : Nat) (session : Session) :
    Follows
      (runCycles devices.recording.notify haltOnFault keys count session)
      (runCycles devices.notify haltOnFault keys count session)
      fun added result =>
        (∃ failure, result.2 = .failed failure ∧ BrokenOff added failure) ∨
          (let outcome := playCycles haltOnFault keys count session.machine
          result = (session.after outcome, outcome.course) ∧
            added = faultRecords session.stats.frames outcome.faults) := by
  induction count generalizing session with
  | zero =>
      refine .of_pure (.inr ⟨?_, rfl⟩)
      exact Prod.ext session.after_idle.symm rfl
  | succ count inductionHypothesis =>
      simp only [runCycles, playCycles]
      cases ended : session.machine.cycle keys with
      | done next =>
          refine (inductionHypothesis _).weaken ?_
          rintro added result (failed | ⟨isResult, isAdded⟩)
          · exact .inl failed
          · rw [after_done] at isResult
            exact .inr ⟨isResult, isAdded⟩
      | failure failure next =>
          refine .of_pure (.inr ⟨?_, rfl⟩)
          exact Prod.ext (session.after_failure next failure) rfl
      | fault fault next =>
          refine (Follows.noting _ _).bind ?_
          rintro _ (failure | _) rfl
          · exact .of_pure (.inl ⟨failure, rfl, .single rfl rfl⟩)
          cases haltOnFault with
          | true =>
              refine .of_pure (.inr ⟨?_, rfl⟩)
              exact Prod.ext (after_halt session next fault) rfl
          | false =>
              refine (inductionHypothesis _).weaken ?_
              rintro later result
                (⟨failure, failed, broken⟩ | ⟨isResult, isAdded⟩)
              · exact .inl ⟨failure, failed, broken.append (smooth_single rfl rfl)⟩
              · rw [after_fault] at isResult
                exact .inr ⟨isResult, isAdded ▸ rfl⟩

theorem follows_stepFrame
    (config : Config) (keys : KeySet) (session : Session) :
    Follows (session.stepFrame devices.recording.notify config keys)
      (session.stepFrame devices.notify config keys)
      fun added result =>
        (∃ failure, result.2 = .failed failure ∧ BrokenOff added failure) ∨
          (let outcome := playFrame config keys session.machine
          result = (session.after outcome, outcome.course) ∧
            added = faultRecords session.stats.frames outcome.faults) :=
  follows_runCycles config.haltOnFault keys _ _

/-- The records of drawing a frame and reporting it. -/
def closingRecords (session : Session) : List Record :=
  [.drawn session.machine.display (.ok ()),
    .told (.frame session.stats.frames
      (session.stats.metrics session.machine.display)) (.ok ())]

private theorem smooth_closingRecords (session : Session) :
    Smooth (closingRecords session) := by
  simp [Smooth, closingRecords, Record.isOfFrame, Record.failure?]

private theorem follows_finishFrame (start : Float) (session : Session) :
    Follows (session.finishFrame devices.recording start)
      (session.finishFrame devices start)
      fun added result =>
        (∃ failure, result.2 = .error failure ∧ BrokenOff added failure) ∨
          ∃ elapsed, result = (session.counted elapsed, .ok ()) ∧
            added = closingRecords (session.counted elapsed) := by
  unfold finishFrame
  refine (Follows.noting _ _).bind ?_
  rintro _ (failure | _) rfl
  · exact .of_pure (.inl ⟨failure, rfl, .single rfl rfl⟩)
  refine (Follows.lift _).bind ?_
  rintro _ time rfl
  refine (Follows.noting _ _).bind ?_
  rintro _ (failure | _) rfl
  · refine .of_pure (.inl ⟨failure, rfl, ?_⟩)
    exact .append (smooth_single rfl rfl) (.single rfl rfl)
  · exact .of_pure (.inr ⟨time - start, rfl, rfl⟩)

/-- A frame ends with a failure of a device, or it is the frame that the machine
plays on its own. -/
theorem follows_runFrame
    (config : Config) (start : Float) (keys : KeySet) (session : Session) :
    Follows (session.runFrame devices.recording config start keys)
      (session.runFrame devices config start keys)
      fun added result =>
        (∃ failure, result.2 = .failed failure ∧ BrokenOff added failure) ∨
          (let outcome := playFrame config keys session.machine
          (∃ failure, outcome.course = .failed failure ∧
            result = (session.after outcome, .failed failure) ∧
            added = faultRecords session.stats.frames outcome.faults) ∨
          ((∀ failure, outcome.course ≠ .failed failure) ∧ ∃ elapsed,
            result =
              ((session.after outcome).counted elapsed, outcome.course) ∧
            added =
              faultRecords session.stats.frames outcome.faults ++
                closingRecords
                  ((session.after outcome).counted elapsed))) := by
  unfold runFrame
  refine (follows_stepFrame config keys session).bind ?_
  rintro added ⟨stepped, course⟩ (⟨failure, failed, broken⟩ | ⟨isStepped, rfl⟩)
  · subst failed
    refine .of_pure (.inl ⟨failure, rfl, ?_⟩)
    rwa [List.append_nil]
  · obtain ⟨rfl, rfl⟩ := Prod.mk.inj isStepped
    cases course : (playFrame config keys session.machine).course with
    | failed failure =>
        refine .of_pure (.inr (.inl ⟨failure, course, rfl, ?_⟩))
        rw [List.append_nil]
    | goesOn | halted =>
        refine (follows_finishFrame start _).bind ?_
        rintro later ⟨finished, report⟩
          (⟨failure, failed, broken⟩ | ⟨elapsed, isFinished, rfl⟩)
        · subst failed
          refine .of_pure (.inl ⟨failure, rfl, ?_⟩)
          rw [List.append_nil]
          exact broken.append (smooth_faultRecords _ _)
        · obtain ⟨rfl, rfl⟩ := Prod.mk.inj isFinished
          refine .of_pure (.inr (.inr
            ⟨?_, elapsed, Prod.ext rfl course.symm, ?_⟩))
          · simp [course]
          · rw [List.append_nil]

theorem follows_pace (duration lastEnd : Float) :
    Follows (pace devices.recording duration lastEnd)
      (pace devices duration lastEnd) fun added _ => added = [] := by
  unfold pace
  split
  · refine (Follows.lift _).bind ?_
    rintro _ time rfl
    simp only
    split
    · refine (Follows.lift _).bind ?_
      rintro _ _ rfl
      exact Follows.lift _
    · exact Follows.lift _
  · exact Follows.lift _

/-! ## The loop over frames -/

/-- The limit allows a frame after the given number of frames. -/
def HasFrame (limit : Option Int) (given : Nat) : Prop :=
  ∀ most, limit = some most → (given : Int) < most

/-- The records of a frame up to its drawing. -/
def openRecords (keys : KeySet) (session : Session) (outcome : FrameOutcome) :
    List Record :=
  .asked (.ok (some keys)) ::
    faultRecords session.stats.frames outcome.faults

def frameRecords (keys : KeySet) (session : Session) (outcome : FrameOutcome)
    (elapsed : Float) : List Record :=
  openRecords keys session outcome ++
    closingRecords ((session.after outcome).counted elapsed)

theorem smooth_openRecords
    (keys : KeySet) (session : Session) (outcome : FrameOutcome) :
    Smooth (openRecords keys session outcome) :=
  (smooth_single rfl rfl).append (smooth_faultRecords _ _)

theorem smooth_frameRecords
    (keys : KeySet) (session : Session) (outcome : FrameOutcome)
    (elapsed : Float) :
    Smooth (frameRecords keys session outcome elapsed) :=
  (smooth_openRecords keys session outcome).append (smooth_closingRecords _)

/-- What a loop over frames can do while its devices work.  The numbers count
the frames that the limit has already allowed. -/
inductive Played (config : Config) (limit : Option Int) :
    Nat → Session → List Record → Session → Ending → Prop
  | complete {given : Nat} {session : Session}
      (used : ¬ HasFrame limit given) :
      Played config limit given session [] session .complete
  | stopped {given : Nat} {session : Session}
      (more : HasFrame limit given) :
      Played config limit given session [.asked (.ok none)] session .stopped
  | halted {given : Nat} {session : Session} {keys : KeySet} {elapsed : Float}
      (more : HasFrame limit given)
      (halts : (playFrame config keys session.machine).course = .halted) :
      Played config limit given session
        (frameRecords keys session (playFrame config keys session.machine)
          elapsed)
        ((session.after (playFrame config keys session.machine)).counted
          elapsed)
        .halted
  | failed {given : Nat} {session : Session} {keys : KeySet}
      {failure : Failure}
      (more : HasFrame limit given)
      (fails : (playFrame config keys session.machine).course =
        .failed failure) :
      Played config limit given session
        (openRecords keys session (playFrame config keys session.machine))
        (session.after (playFrame config keys session.machine))
        (.failed failure)
  | next {given : Nat} {session final : Session} {keys : KeySet}
      {elapsed : Float} {later : List Record} {ending : Ending}
      (more : HasFrame limit given)
      (goesOn : (playFrame config keys session.machine).course = .goesOn)
      (rest : Played config limit (given + 1)
        ((session.after (playFrame config keys session.machine)).counted
          elapsed)
        later final ending) :
      Played config limit given session
        (frameRecords keys session (playFrame config keys session.machine)
          elapsed ++ later)
        final ending

theorem Played.smooth
    {config : Config} {limit : Option Int} {given : Nat}
    {session final : Session} {records : List Record} {ending : Ending}
    (played : Played config limit given session records final ending) :
    Smooth records := by
  induction played with
  | complete _ => exact List.forall_mem_nil _
  | stopped _ => exact smooth_single rfl rfl
  | halted _ _ => exact smooth_frameRecords _ _ _ _
  | failed _ _ => exact smooth_openRecords _ _ _
  | next _ _ _ inductionHypothesis =>
      exact (smooth_frameRecords _ _ _ _).append inductionHypothesis

theorem hasNext_iff (supply : FrameSupply) :
    supply.hasNext = true ↔ HasFrame supply.limit supply.given := by
  cases limited : supply.limit <;>
    simp [FrameSupply.hasNext, HasFrame, limited]

theorem next_of_hasFrame
    {supply : FrameSupply} (unused : supply.finished = false)
    (more : HasFrame supply.limit supply.given) :
    supply.next =
      (some supply.given,
        { supply with given := supply.given + 1, bar := supply.movedBar }) := by
  have hasNext := (hasNext_iff supply).mpr more
  simp [FrameSupply.next, unused, hasNext]

theorem next_of_not_hasFrame
    {supply : FrameSupply} (unused : supply.finished = false)
    (used : ¬ HasFrame supply.limit supply.given) :
    supply.next =
      (none,
        { supply with
          finished := true
          bar := supply.movedBar.map Bar.close }) := by
  rw [← hasNext_iff] at used
  simp [FrameSupply.next, unused, used]

/-- The loop plays frames, unless a device fails or its patience is exhausted
before a limit is. -/
theorem follows_runFrames
    (config : Config) (duration start : Float) (patience : Nat)
    (supply : FrameSupply) (lastEnd : Float) (session : Session)
    (unused : supply.finished = false)
    (within : ∀ most, supply.limit = some most → supply.given ≤ most.toNat) :
    Follows
      (runFrames devices.recording config duration start patience supply
        lastEnd session)
      (runFrames devices config duration start patience supply lastEnd session)
      fun added result =>
        (∃ failure, result.2.2 = .failed failure ∧ BrokenOff added failure) ∨
          (result.2.2 = .unfinished ∧ ∀ most, supply.limit = some most →
            supply.given + patience ≤ most.toNat) ∨
          Played config supply.limit supply.given session added result.1
            result.2.2 := by
  induction patience generalizing supply lastEnd session with
  | zero => exact .of_pure (.inr (.inl ⟨rfl, within⟩))
  | succ patience inductionHypothesis =>
      unfold runFrames
      by_cases more : HasFrame supply.limit supply.given
      · rw [next_of_hasFrame unused more]
        refine (Follows.noting _ _).bind ?_
        rintro _ (failure | keys) rfl
        · exact .of_pure (.inl ⟨failure, rfl, .single rfl rfl⟩)
        cases keys with
        | none => exact .of_pure (.inr (.inr (.stopped more)))
        | some keys =>
            refine (follows_runFrame config start keys session).bind ?_
            rintro _ ⟨played, course⟩ (⟨failure, failed, broken⟩ |
              ⟨failure, fails, isPlayed, rfl⟩ |
              ⟨unbroken, elapsed, isPlayed, rfl⟩)
            · subst failed
              refine .of_pure (.inl ⟨failure, rfl, ?_⟩)
              rw [List.append_nil]
              exact broken.append (smooth_single rfl rfl)
            · obtain ⟨rfl, rfl⟩ := Prod.mk.inj isPlayed
              refine .of_pure (.inr (.inr ?_))
              rw [List.append_nil]
              exact .failed more fails
            obtain ⟨rfl, rfl⟩ := Prod.mk.inj isPlayed
            cases course : (playFrame config keys session.machine).course with
            | failed failure => exact absurd course (unbroken failure)
            | halted =>
                refine .of_pure (.inr (.inr ?_))
                rw [List.append_nil]
                exact .halted more course
            | goesOn =>
                refine (follows_pace duration lastEnd).bind ?_
                rintro _ frameEnd rfl
                refine (inductionHypothesis _ _ _ ?_ ?_).weaken ?_
                · exact unused
                · intro most limited
                  have below := more most limited
                  simp only
                  omega
                · rintro later ⟨final, last, ending⟩
                    (⟨failure, failed, broken⟩ | ⟨unfinished, exhausted⟩ |
                      rest)
                  · refine .inl ⟨failure, failed, ?_⟩
                    have framed := broken.append
                      (smooth_frameRecords keys session
                        (playFrame config keys session.machine) elapsed)
                    exact framed
                  · refine .inr (.inl ⟨unfinished, ?_⟩)
                    intro most limited
                    have bound := exhausted most limited
                    simp only at bound
                    omega
                  · refine .inr (.inr ?_)
                    rw [List.nil_append]
                    exact .next more course rest
      · rw [next_of_not_hasFrame unused more]
        exact .of_pure (.inr (.inr (.complete more)))

/-! ## The whole run -/

/-- The session with the time that it has taken. -/
def timed (session : Session) (elapsed : Float) : Session :=
  { session with stats := { session.stats with elapsed := elapsed } }

private theorem follows_runAndRelease
    (config : Config) (duration start : Float) (patience : Nat)
    (supply : FrameSupply) (session : Session)
    (unused : supply.finished = false)
    (within : ∀ most, supply.limit = some most → supply.given ≤ most.toNat) :
    Follows
      (session.runAndRelease devices.recording config duration start patience
        supply)
      (session.runAndRelease devices config duration start patience supply)
      fun added result => ∃ played, added = played ++ [.released] ∧
        ((∃ failure, result.ending = .failed failure ∧
          BrokenOff played failure) ∨
        (result.ending = .unfinished ∧ ∀ most, supply.limit = some most →
          supply.given + patience ≤ most.toNat) ∨
        ∃ final elapsed,
          Played config supply.limit supply.given session played final
            result.ending ∧
          result.session = final.timed elapsed) := by
  unfold runAndRelease
  refine (follows_runFrames config duration start patience supply start session
    unused within).bind ?_
  rintro played ⟨final, last, ending⟩ course
  refine (Follows.noting _ _).bind ?_
  rintro _ _ rfl
  refine (Follows.lift _).bind ?_
  rintro _ time rfl
  refine .of_pure ⟨played, rfl, ?_⟩
  rcases course with failed | unfinished | frames
  · exact .inl failed
  · exact .inr (.inl unfinished)
  · exact .inr (.inr ⟨final, time - start, frames, rfl⟩)

/-- The record of the end of a run, which a failure leaves out. -/
def Result.farewell (result : Result) : List Record :=
  match result.ending with
  | .failed _ => []
  | _ =>
      [.told (.ended (result.session.stats.finalMetrics
        result.session.machine.display)) (.ok ())]

/-- Telling the end of a run fails, which then is how the run ends, or it leaves
the result as it was. -/
theorem follows_report (result : Result) :
    Follows (result.report devices.recording.notify)
      (result.report devices.notify)
      fun added reported =>
        (∃ failure metrics, reported.ending = .failed failure ∧
          added = [.told (.ended metrics) (.error failure)]) ∨
        reported = result ∧ added = result.farewell := by
  unfold Result.report Result.farewell
  cases ending : result.ending with
  | failed failure => exact .of_pure (.inr ⟨rfl, rfl⟩)
  | complete | stopped | halted | unfinished =>
      refine (Follows.noting _ _).bind ?_
      rintro _ (failure | _) rfl
      · exact .of_pure (.inl ⟨failure, _, rfl, rfl⟩)
      · exact .of_pure (.inr ⟨rfl, rfl⟩)

theorem limit_supplyFor (limit : Option Int) (progress : Bool) :
    (supplyFor limit progress).limit = limit ∧
      (supplyFor limit progress).given = 0 ∧
      (supplyFor limit progress).finished = false := by
  cases limit with
  | none => exact ⟨rfl, rfl, rfl⟩
  | some most => cases progress <;> exact ⟨rfl, rfl, rfl⟩

def openingRecords (config : Config) : List Record :=
  [.told (.started config.entries) (.ok ()), .prepared (.ok ())]

/-- The records of a run that a failure has ended, unless it is one of a
cycle. -/
inductive Aborted : Config → List Record → Failure → Prop
  | rate {config : Config} {failure : Failure}
      (tooFast : frameDuration config.fps = .error failure) :
      Aborted config [] failure
  | start (config : Config) (failure : Failure) :
      Aborted config [.told (.started config.entries) (.error failure)] failure
  | setup (config : Config) (failure : Failure) :
      Aborted config
        [.told (.started config.entries) (.ok ()), .prepared (.error failure)]
        failure
  | frame (config : Config) {played : List Record} {failure : Failure}
      (broken : BrokenOff played failure) :
      Aborted config (openingRecords config ++ played ++ [.released]) failure
  | farewell (config : Config) (played : List Record) (metrics : Metrics)
      (failure : Failure) :
      Aborted config
        (openingRecords config ++ played ++
          [.released, .told (.ended metrics) (.error failure)])
        failure

/-- A run is broken off because of its rate or because of a failing record. -/
theorem Aborted.exists_failing
    {config : Config} {records : List Record} {failure : Failure}
    (aborted : Aborted config records failure) :
    frameDuration config.fps = .error failure ∨
      ∃ record ∈ records, record.failure? = some failure := by
  cases aborted with
  | rate tooFast => exact .inl tooFast
  | start => exact .inr ⟨_, List.mem_singleton_self _, rfl⟩
  | setup => exact .inr ⟨.prepared (.error failure), by simp, rfl⟩
  | frame broken =>
      obtain ⟨earlier, latest, rfl, -, -, fails⟩ := broken
      exact .inr ⟨latest, by simp, fails⟩
  | farewell played metrics =>
      exact .inr ⟨.told (.ended metrics) (.error failure), by simp, rfl⟩

/-- A run plays frames between the records of its start and of its end, unless
the rate of its frames is too large, a device fails, or it has no limit and is
broken off. -/
theorem follows_run
    (devices : Devices m) (config : Config) (limit : Option Int)
    (progress : Bool) (patience : Nat) (session : Session) :
    Follows (session.run devices.recording config limit progress patience)
      (session.run devices config limit progress patience)
      fun added result =>
        (∃ failure, result.ending = .failed failure ∧
          Aborted config added failure) ∨
          (limit = none ∧ result.ending = .unfinished) ∨
          ∃ played final elapsed,
            Played config limit 0 session played final result.ending ∧
            result.session = final.timed elapsed ∧
            added =
              openingRecords config ++ played ++
                .released :: result.farewell := by
  obtain ⟨sameLimit, noneGiven, unused⟩ := limit_supplyFor limit progress
  unfold run
  cases rate : frameDuration config.fps with
  | error failure => exact .of_pure (.inl ⟨failure, rfl, .rate rate⟩)
  | ok duration =>
      refine (Follows.noting _ _).bind ?_
      rintro _ (failure | _) rfl
      · exact .of_pure (.inl ⟨failure, rfl, .start config failure⟩)
      refine (Follows.lift _).bind ?_
      rintro _ start rfl
      refine (Follows.noting _ _).bind ?_
      rintro _ (failure | _) rfl
      · exact .of_pure (.inl ⟨failure, rfl, .setup config failure⟩)
      have within : ∀ most,
          (supplyFor limit progress).limit = some most →
            (supplyFor limit progress).given ≤ most.toNat := by
        intro most _
        rw [noneGiven]
        exact Nat.zero_le _
      refine (follows_runAndRelease config duration start _ _ session unused
        within).bind ?_
      rintro _ result ⟨played, rfl, course⟩
      rw [sameLimit, noneGiven] at course
      refine (follows_report result).weaken ?_
      rintro last reported (⟨failure, metrics, failed, rfl⟩ | ⟨rfl, rfl⟩)
      · refine .inl ⟨failure, failed, ?_⟩
        simpa [openingRecords] using
          Aborted.farewell config played metrics failure
      rcases course with ⟨failure, failed, broken⟩ | ⟨unfinished, exhausted⟩ |
        ⟨final, elapsed, frames, isSession⟩
      · refine .inl ⟨failure, failed, ?_⟩
        simpa [openingRecords, Result.farewell, failed] using
          Aborted.frame config broken
      · cases limit with
        | none => exact .inr (.inl ⟨rfl, unfinished⟩)
        | some most =>
            have tooMany := exhausted most rfl
            simp only [patienceFor] at tooMany
            omega
      · refine .inr (.inr ⟨played, final, elapsed, frames, isSession, ?_⟩)
        simp [openingRecords]

/-- The same for a run that is known to come to an end without a failure. -/
theorem played_of_run
    {σ : Type} (devices : Devices (StateM σ)) (config : Config)
    (limit : Option Int) (progress : Bool) (patience : Nat) (session : Session)
    {world after : σ} {result : Result} {records : List Record}
    (ran :
      ((session.run devices.recording config limit progress patience).run
          []).run world = ((result, records), after))
    (noFailure : ∀ failure, result.ending ≠ .failed failure)
    (finished : limit = none → result.ending ≠ .unfinished) :
    (session.run devices config limit progress patience).run world =
        (result, after) ∧
      ∃ played final elapsed,
        Played config limit 0 session played final result.ending ∧
        result.session = final.timed elapsed ∧
        records =
          openingRecords config ++ played ++ .released :: result.farewell := by
  obtain ⟨sameRun, course⟩ :=
    (follows_run devices config limit progress patience session).of_run ran
  refine ⟨sameRun, ?_⟩
  rcases course with ⟨failure, failed, _⟩ | ⟨unlimited, unfinished⟩ | played
  · exact absurd failed (noFailure failure)
  · exact absurd unfinished (finished unlimited)
  · exact played

end Chip8.Session
