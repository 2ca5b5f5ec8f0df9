import Chip8.Proofs.SessionClosure
import Chip8.Proofs.SessionTrace

/-!
# Two sessions side by side

Two sessions with the same settings but for the rate go through the same frames
when their front-ends give the same answers, whatever their clocks show.  They
are compared through a coupling, that is, a relation between the actions of the
two sides that is closed under sequencing.  Reading a clock and sleeping are
steps of one side alone.
-/

namespace Chip8

/-- A relation between the actions of two monads that is closed under
sequencing. -/
structure Coupling (m n : Type → Type) [Monad m] [Monad n] where
  /-- The actions can be performed together, and their results are related. -/
  Holds : {α β : Type} → m α → n β → (α → β → Prop) → Prop
  ofPure : ∀ {α β : Type} {Same : α → β → Prop} {value : α} {other : β},
    Same value other → Holds (pure value) (pure other) Same
  ofBind : ∀ {α β γ δ : Type} {Same : α → β → Prop} {Last : γ → δ → Prop}
    {action : m α} {otherAction : n β} {next : α → m γ} {otherNext : β → n δ},
    Holds action otherAction Same →
    (∀ value other, Same value other →
      Holds (next value) (otherNext other) Last) →
    Holds (action >>= next) (otherAction >>= otherNext) Last

namespace Coupling

section

variable {m n : Type → Type} [Monad m] [Monad n]

def swap (coupling : Coupling m n) : Coupling n m where
  Holds action other Same :=
    coupling.Holds other action fun value otherValue => Same otherValue value
  ofPure same := coupling.ofPure same
  ofBind first later :=
    coupling.ofBind first fun value other same => later other value same

/-- The actions of the first side that go together with no action of the second
side. -/
def silent [LawfulMonad n] (coupling : Coupling m n) : ActionClass m where
  Holds action := coupling.Holds action (pure ()) fun _ _ => True
  ofPure _ := coupling.ofPure trivial
  ofBind := by
    intro α β action next first later
    rw [← pure_bind () fun _ => (pure () : n Unit)]
    exact coupling.ofBind first fun value _ _ => later value

theorem of_silent
    [LawfulMonad m] [LawfulMonad n] (coupling : Coupling m n)
    {α β : Type} {action : m α} {other : n β}
    (first : coupling.silent.Holds action)
    (second : coupling.swap.silent.Holds other) :
    coupling.Holds action other fun _ _ => True := by
  have afterFirst (value : α) :
      coupling.Holds (pure value) other fun _ _ => True := by
    rw [← pure_bind () fun _ => (pure value : m α), ← bind_pure other]
    exact coupling.ofBind second fun _ _ _ => coupling.ofPure trivial
  rw [← bind_pure action, ← pure_bind () fun _ => other]
  exact coupling.ofBind first fun value _ _ => afterFirst value

end

end Coupling

namespace Session

/-! ## What depends on the time -/

def masking (name : String) (entries : List (String × Value)) :
    List (String × Value) :=
  entries.map fun entry => if entry.1 = name then (name, .null) else entry

/-- The event without the rate of the frames and without the number of
instructions per second. -/
def Event.untimed : Event → Event
  | .started settings => .started (masking "fps" settings)
  | .frame number metrics =>
      .frame number (masking "instructions_per_second" metrics)
  | .fault frames raised => .fault frames raised
  | .ended metrics => .ended (masking "instructions_per_second" metrics)

theorem masking_entries (config : Config) (rate : Int) :
    masking "fps" ({ config with fps := rate } : Config).entries =
      masking "fps" config.entries := by
  simp [masking, Config.entries]

private theorem masking_metrics
    (session : Session) (elapsed : Float) (display : Display) :
    masking "instructions_per_second"
        ((session.timed elapsed).stats.metrics display) =
      masking "instructions_per_second" (session.stats.metrics display) := by
  simp [masking, Stats.metrics, timed]

private theorem masking_finalMetrics
    (session : Session) (elapsed : Float) (display : Display) :
    masking "instructions_per_second"
        ((session.timed elapsed).stats.finalMetrics display) =
      masking "instructions_per_second" (session.stats.finalMetrics display) := by
  simp [masking, Stats.finalMetrics, Stats.metrics, timed]

/-- The sessions differ in nothing but the time, and what comes with them is
the same. -/
def SameButTime {α : Type} (first second : Session × α) : Prop :=
  (∃ elapsed, second.1 = first.1.timed elapsed) ∧ first.2 = second.2

theorem SameButTime.exists_eq
    {α : Type} {session : Session} {value : α} {second : Session × α}
    (same : SameButTime (session, value) second) :
    ∃ elapsed, second = (session.timed elapsed, value) := by
  obtain ⟨⟨elapsed, isSession⟩, isValue⟩ := same
  exact ⟨elapsed, Prod.ext isSession isValue.symm⟩

end Session

/-- The devices give the same answers, and the observers make no difference
between events that differ in their times.  Clocks and sleeps are unlike, but
neither the front-ends nor the observers notice them. -/
structure Devices.Alike {m n : Type → Type} [Monad m] [Monad n]
    [LawfulMonad m] [LawfulMonad n] (first : Devices m) (second : Devices n)
    (coupling : Coupling m n) : Prop where
  setup : coupling.Holds first.frontend.setup second.frontend.setup Eq
  readKeys : coupling.Holds first.frontend.readKeys second.frontend.readKeys Eq
  draw : ∀ display,
    coupling.Holds (first.frontend.draw display)
      (second.frontend.draw display) Eq
  cleanup : coupling.Holds first.frontend.cleanup second.frontend.cleanup Eq
  notify : ∀ event other, event.untimed = other.untimed →
    coupling.Holds (first.notify event) (second.notify other) Eq
  now : coupling.silent.Holds first.now
  sleep : ∀ seconds, coupling.silent.Holds (first.sleep seconds)
  otherNow : coupling.swap.silent.Holds second.now
  otherSleep : ∀ seconds, coupling.swap.silent.Holds (second.sleep seconds)

namespace Session

variable {m n : Type → Type} [Monad m] [Monad n] [LawfulMonad m]
  [LawfulMonad n] {coupling : Coupling m n}
  {first : Devices m} {second : Devices n}
  (alike : first.Alike second coupling)

include alike

/-! ## One frame -/

private theorem coupled_runCycles
    (haltOnFault : Bool) (keys : KeySet) (count : Nat) (session : Session)
    (elapsed : Float) :
    coupling.Holds (runCycles first.notify haltOnFault keys count session)
      (runCycles second.notify haltOnFault keys count (session.timed elapsed))
      SameButTime := by
  induction count generalizing session with
  | zero => exact coupling.ofPure ⟨⟨elapsed, rfl⟩, rfl⟩
  | succ count inductionHypothesis =>
      have sameMachine : (session.timed elapsed).machine = session.machine :=
        rfl
      unfold runCycles
      rw [sameMachine]
      cases session.machine.cycle keys with
      | done next => exact inductionHypothesis _
      | failure failure next => exact coupling.ofPure ⟨⟨elapsed, rfl⟩, rfl⟩
      | fault fault next =>
          refine coupling.ofBind (alike.notify _ _ rfl) ?_
          intro answer _ sameAnswer
          subst sameAnswer
          cases answer with
          | error failure => exact coupling.ofPure ⟨⟨elapsed, rfl⟩, rfl⟩
          | ok _ =>
              cases haltOnFault with
              | true => exact coupling.ofPure ⟨⟨elapsed, rfl⟩, rfl⟩
              | false => exact inductionHypothesis _

theorem coupled_now :
    coupling.Holds first.now second.now fun _ _ => True :=
  coupling.of_silent alike.now alike.otherNow

private theorem coupled_finishFrame
    (start otherStart : Float) (session : Session) (elapsed : Float) :
    coupling.Holds (session.finishFrame first start)
      ((session.timed elapsed).finishFrame second otherStart)
      SameButTime := by
  unfold finishFrame
  refine coupling.ofBind (alike.draw _) ?_
  intro answer _ sameAnswer
  subst sameAnswer
  cases answer with
  | error failure => exact coupling.ofPure ⟨⟨elapsed, rfl⟩, rfl⟩
  | ok _ =>
      refine coupling.ofBind (coupled_now alike) ?_
      intro time otherTime _
      have sameReport := congrArg (Event.frame (session.stats.frames + 1))
        (masking_metrics (session.counted (time - start))
          (otherTime - otherStart) session.machine.display).symm
      refine coupling.ofBind (alike.notify _ _ sameReport) ?_
      intro reported _ sameReported
      exact coupling.ofPure ⟨⟨otherTime - otherStart, rfl⟩, sameReported⟩

private theorem coupled_runFrame
    (config : Config) (rate : Int) (start otherStart : Float) (keys : KeySet)
    (session : Session) (elapsed : Float) :
    coupling.Holds (session.runFrame first config start keys)
      ((session.timed elapsed).runFrame second { config with fps := rate }
        otherStart keys)
      SameButTime := by
  unfold runFrame
  have stepped :
      coupling.Holds (session.stepFrame first.notify config keys)
        ((session.timed elapsed).stepFrame second.notify
          { config with fps := rate } keys)
        SameButTime :=
    coupled_runCycles alike config.haltOnFault keys _
      { session with machine := session.machine.countDown } elapsed
  refine coupling.ofBind stepped ?_
  intro result otherResult same
  obtain ⟨stepped, course⟩ := result
  obtain ⟨elapsed, rfl⟩ := same.exists_eq
  cases course with
  | failed failure => exact coupling.ofPure ⟨⟨elapsed, rfl⟩, rfl⟩
  | goesOn | halted =>
      refine coupling.ofBind
        (coupled_finishFrame alike start otherStart stepped elapsed) ?_
      intro result otherResult same
      obtain ⟨finished, report⟩ := result
      obtain ⟨elapsed, rfl⟩ := same.exists_eq
      cases report <;> exact coupling.ofPure ⟨⟨elapsed, rfl⟩, rfl⟩

private theorem coupled_pace (duration otherDuration lastEnd otherLastEnd : Float) :
    coupling.Holds (pace first duration lastEnd)
      (pace second otherDuration otherLastEnd) fun _ _ => True :=
  coupling.of_silent (holds_pace alike.now alike.sleep duration lastEnd)
    (holds_pace alike.otherNow alike.otherSleep otherDuration otherLastEnd)

/-! ## The loop over frames -/

private theorem coupled_runFrames
    (config : Config) (rate : Int)
    (duration otherDuration start otherStart : Float) (patience : Nat)
    {supply otherSupply : FrameSupply}
    (unused : supply.finished = false)
    (otherUnused : otherSupply.finished = false)
    (sameLimit : otherSupply.limit = supply.limit)
    (sameGiven : otherSupply.given = supply.given)
    (lastEnd otherLastEnd : Float) (session : Session) (elapsed : Float) :
    coupling.Holds
      (runFrames first config duration start patience supply lastEnd session)
      (runFrames second { config with fps := rate } otherDuration otherStart
        patience otherSupply otherLastEnd (session.timed elapsed))
      fun result other =>
        SameButTime (result.1, result.2.2) (other.1, other.2.2) := by
  induction patience generalizing supply otherSupply lastEnd otherLastEnd
      session elapsed with
  | zero => exact coupling.ofPure ⟨⟨elapsed, rfl⟩, rfl⟩
  | succ patience inductionHypothesis =>
      unfold runFrames
      by_cases more : HasFrame supply.limit supply.given
      · have otherMore : HasFrame otherSupply.limit otherSupply.given := by
          rwa [sameLimit, sameGiven]
        rw [next_of_hasFrame unused more,
          next_of_hasFrame otherUnused otherMore]
        refine coupling.ofBind alike.readKeys ?_
        intro answer _ sameAnswer
        subst sameAnswer
        rcases answer with failure | _ | keys
        · exact coupling.ofPure ⟨⟨elapsed, rfl⟩, rfl⟩
        · exact coupling.ofPure ⟨⟨elapsed, rfl⟩, rfl⟩
        refine coupling.ofBind
          (coupled_runFrame alike config rate start otherStart keys session
            elapsed) ?_
        intro result otherResult same
        obtain ⟨played, course⟩ := result
        obtain ⟨elapsed, rfl⟩ := same.exists_eq
        cases course with
        | failed failure => exact coupling.ofPure ⟨⟨elapsed, rfl⟩, rfl⟩
        | halted => exact coupling.ofPure ⟨⟨elapsed, rfl⟩, rfl⟩
        | goesOn =>
            refine coupling.ofBind (coupled_pace alike _ _ _ _) ?_
            intro frameEnd otherFrameEnd _
            refine inductionHypothesis ?_ ?_ ?_ ?_ frameEnd otherFrameEnd
              played elapsed
            · exact unused
            · exact otherUnused
            · exact sameLimit
            · exact congrArg (· + 1) sameGiven
      · have otherUsed : ¬ HasFrame otherSupply.limit otherSupply.given := by
          rwa [sameLimit, sameGiven]
        rw [next_of_not_hasFrame unused more,
          next_of_not_hasFrame otherUnused otherUsed]
        exact coupling.ofPure ⟨⟨elapsed, rfl⟩, rfl⟩

/-! ## The whole run -/

/-- The bars are left out of the comparison: only one of them may exist. -/
def Result.SameButTime (result other : Result) : Prop :=
  Session.SameButTime (result.session, result.ending)
    (other.session, other.ending)

private theorem coupled_runAndRelease
    (config : Config) (rate : Int)
    (duration otherDuration start otherStart : Float)
    (patience : Nat) {supply otherSupply : FrameSupply}
    (unused : supply.finished = false)
    (otherUnused : otherSupply.finished = false)
    (sameLimit : otherSupply.limit = supply.limit)
    (sameGiven : otherSupply.given = supply.given) (session : Session) :
    coupling.Holds
      (session.runAndRelease first config duration start patience supply)
      (session.runAndRelease second { config with fps := rate } otherDuration
        otherStart patience otherSupply)
      Result.SameButTime := by
  unfold runAndRelease
  refine coupling.ofBind
    (coupled_runFrames alike config rate duration otherDuration start
      otherStart patience unused otherUnused sameLimit sameGiven start
      otherStart session session.stats.elapsed) ?_
  intro result otherResult same
  obtain ⟨final, _, ending⟩ := result
  obtain ⟨otherFinal, _, otherEnding⟩ := otherResult
  obtain ⟨⟨elapsed, isFinal⟩, sameEnding⟩ := same
  simp only at isFinal
  subst isFinal
  refine coupling.ofBind alike.cleanup ?_
  intro _ _ _
  refine coupling.ofBind (coupled_now alike) ?_
  intro time otherTime _
  exact coupling.ofPure ⟨⟨otherTime - otherStart, rfl⟩, sameEnding⟩

private theorem coupled_report
    {result other : Result} (same : result.SameButTime other) :
    coupling.Holds (result.report first.notify) (other.report second.notify)
      Result.SameButTime := by
  obtain ⟨session, bar, ending⟩ := result
  obtain ⟨otherSession, otherBar, otherEnding⟩ := other
  obtain ⟨⟨elapsed, isSession⟩, sameEnding⟩ := same
  simp only at isSession sameEnding
  subst isSession
  subst sameEnding
  have sameReport := congrArg Event.ended
    (masking_finalMetrics session elapsed session.machine.display).symm
  unfold Result.report
  cases ending with
  | failed failure => exact coupling.ofPure ⟨⟨elapsed, rfl⟩, rfl⟩
  | complete | stopped | halted | unfinished =>
      refine coupling.ofBind (alike.notify _ _ sameReport) ?_
      intro answer _ sameAnswer
      subst sameAnswer
      cases answer <;> exact coupling.ofPure ⟨⟨elapsed, rfl⟩, rfl⟩

/-- Two runs with different rates and bars stay coupled if their devices are. -/
theorem coupled_run
    (config : Config) {rate otherRate : Int} {duration otherDuration : Float}
    (hasDuration : frameDuration rate = .ok duration)
    (otherHasDuration : frameDuration otherRate = .ok otherDuration)
    (limit : Option Int) (progress otherProgress : Bool) (patience : Nat)
    (session : Session) :
    coupling.Holds
      (session.run first { config with fps := rate } limit progress patience)
      (session.run second { config with fps := otherRate } limit otherProgress
        patience)
      Result.SameButTime := by
  obtain ⟨isLimit, noneGiven, unused⟩ := limit_supplyFor limit progress
  obtain ⟨otherIsLimit, otherNoneGiven, otherUnused⟩ :=
    limit_supplyFor limit otherProgress
  have sameStart := congrArg Event.started
    ((masking_entries config rate).trans (masking_entries config otherRate).symm)
  have unstarted (failure : Failure) :
      Result.SameButTime { session := session, ending := .failed failure }
        { session := session, ending := .failed failure } :=
    ⟨⟨session.stats.elapsed, rfl⟩, rfl⟩
  unfold run
  rw [hasDuration, otherHasDuration]
  refine coupling.ofBind (alike.notify _ _ sameStart) ?_
  intro answer _ sameAnswer
  subst sameAnswer
  cases answer with
  | error failure => exact coupling.ofPure (unstarted failure)
  | ok _ =>
      refine coupling.ofBind (coupled_now alike) ?_
      intro start otherStart _
      refine coupling.ofBind alike.setup ?_
      intro answer _ sameAnswer
      subst sameAnswer
      cases answer with
      | error failure => exact coupling.ofPure (unstarted failure)
      | ok _ =>
          refine coupling.ofBind
            (coupled_runAndRelease alike { config with fps := rate } otherRate
              duration otherDuration start otherStart _ unused otherUnused
              (otherIsLimit.trans isLimit.symm)
              (otherNoneGiven.trans noneGiven.symm) session) ?_
          intro result otherResult same
          exact coupled_report alike same

end Session

end Chip8
