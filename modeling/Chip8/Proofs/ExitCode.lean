import Chip8.Proofs.Accounting
import Chip8.Proofs.LayeredSettings
import Chip8.Proofs.ScriptedCommand
import Chip8.Proofs.Startup
import Chip8.Proofs.WordLines

/-!
# The exit code

The command takes its exit code from the faults that are counted on the desk
and from its settings, and not from the counters of the session.  Both counts
agree on every run that does not fail, so the code says whether the session was
halted.

A session announces its settings before anything else.  An accepted integer
can have more digits than can be written, and then the session fails there and
the command has no exit code at all.
-/

namespace Chip8

/-! ## The faults on the desk -/

namespace Statistics

variable {statistics next : Statistics}

private theorem faults_addMetric
    {metrics : Metrics} {key : String}
    (added : statistics.addMetric metrics key = .ok next) :
    next.faults = statistics.faults := by
  unfold addMetric at added
  split at added
  · cases added
    rfl
  · split at added
    · cases added
      rfl
    · split at added
      · cases added
      · cases added
        rfl
    · cases added
      rfl

private theorem faults_addMetrics
    {metrics : Metrics} {keys : List String}
    (added : keys.foldlM (fun statistics key => statistics.addMetric metrics key)
      statistics = .ok next) :
    next.faults = statistics.faults := by
  induction keys generalizing statistics with
  | nil =>
      cases added
      rfl
  | cons key later inductionHypothesis =>
      rw [List.foldlM_cons] at added
      obtain ⟨between, first, rest⟩ := bind_eq_ok_iff.mp added
      rw [inductionHypothesis rest, faults_addMetric first]

private theorem faults_observe
    {event : Session.Event}
    (observed : statistics.observe event = .ok next) :
    next.faults =
      statistics.faults + if event.signal.isFault then 1 else 0 := by
  cases event with
  | frame number metrics =>
      have added :
          next.faults =
            ({ statistics with frames := statistics.frames + 1 } :
              Statistics).faults :=
        faults_addMetrics observed
      exact added
  | fault frames fault =>
      cases observed
      rfl
  | started settings =>
      cases observed
      rfl
  | ended metrics =>
      cases observed
      rfl

end Statistics

namespace Session

variable {σ : Type}

private theorem faults_count
    (event : Event) (desk : Desk) (world : σ) :
    let counting : StateT Desk (StateM σ) (Except Failure Unit) :=
      Desk.count event
    ((counting.run desk).run world).1.2.statistics.faults =
      desk.statistics.faults + if event.signal.isFault then 1 else 0 := by
  have atDesk :
      (StateT.get : StateT Desk (StateM σ) Desk).run desk = pure (desk, desk) :=
    rfl
  intro counting
  simp only [counting, Desk.count, StateT.run_bind, atDesk, pure_bind]
  cases observed : desk.statistics.observe event with
  | ok statistics => exact Statistics.faults_observe observed
  | error failure =>
      have harmless : event.signal.isFault = false := by
        cases event with
        | fault frames fault => cases observed
        | started settings | frame number metrics | ended metrics => rfl
      rw [harmless]
      rfl

/-- The faults on the desk are those that the observers were told of, as long as
no device has failed. -/
def Tallies (desk : Desk) (records : List Record) : Prop :=
  (∀ record ∈ records, record.failure? = none) →
    desk.statistics.faults = (signalsSeen records).countP Signal.isFault

/-- A tally is kept if a record without a failure adds the faults that it tells
of. -/
theorem Tallies.extend
    {desk after : Desk} {records : List Record} {record : Record}
    (tallies : Tallies desk records)
    (counted : record.failure? = none →
      after.statistics.faults =
        desk.statistics.faults + record.signal?.toList.countP Signal.isFault) :
    Tallies after (records ++ [record]) := by
  intro works
  obtain ⟨earlier, latest⟩ := List.forall_mem_append.mp works
  rw [counted (latest record (List.mem_singleton_self record)), tallies earlier]
  unfold signalsSeen
  rw [List.filterMap_append, List.countP_append]
  cases isSignal : record.signal? <;> simp [isSignal]

section

variable (host : CommandLine.Host (StateM σ)) (logger : Logger)
  (interval : Int) (frontend : Frontend (StateT Desk (StateM σ)))
  {event : Event} (desk : Desk) {world after : σ}

/-- What the logger cannot word does not reach the desk. -/
theorem run_notify_of_error
    {failure : Failure}
    (observed :
      (logger.observe host.log interval event).run world =
        (.error failure, after)) :
    (((host.devices logger interval frontend).notify event).run desk).run world =
      ((.error failure, desk), after) := by
  simp only [CommandLine.Host.devices, StateT.run_bind, StateT.run_lift,
    observed]
  rfl

private theorem run_notify_of_ok
    (observed :
      (logger.observe host.log interval event).run world = (.ok (), after)) :
    (((host.devices logger interval frontend).notify event).run desk).run world =
      ((Desk.count event : StateT Desk (StateM σ) _).run desk).run after := by
  simp only [CommandLine.Host.devices, StateT.run_bind, StateT.run_lift,
    observed]
  rfl

/-- An event that the logger takes is counted on the desk. -/
theorem faults_notify
    {answer : Desk}
    (ran :
      (((host.devices logger interval frontend).notify event).run desk).run
        world = ((.ok (), answer), after)) :
    answer.statistics.faults =
      desk.statistics.faults + if event.signal.isFault then 1 else 0 := by
  rcases observed : (logger.observe host.log interval event).run world with
    ⟨failure | _, between⟩
  · rw [run_notify_of_error host logger interval frontend desk observed] at ran
    cases ran
  · rw [run_notify_of_ok host logger interval frontend desk observed] at ran
    have counted := faults_count event desk between
    simp only [ran] at counted
    exact counted

end

private theorem ok_of_failure?_told
    {event : Event} {answer : Except Failure Unit}
    (works : (Record.told event answer).failure? = none) :
    answer = .ok () := by
  cases answer with
  | ok _ => rfl
  | error failure => cases works

/-- The recorded actions that keep the desk in line with the record. -/
def tallying : ActionClass (StateT (List Record) (StateT Desk (StateM σ))) where
  Holds action := ∀ (records : List Record) (desk : Desk) (world : σ),
    Tallies desk records →
      let output := ((action.run records).run desk).run world
      Tallies output.1.2 output.1.1.2
  ofPure _ _ _ _ tallies := tallies
  ofBind first next records desk world tallies :=
    next _ _ _ _ (first records desk world tallies)

private theorem within_tallying
    (host : CommandLine.Host (StateM σ)) (logger : Logger) (interval : Int) :
    (host.devices logger interval Headless.frontend).recording.Within tallying where
  setup _ _ _ tallies := tallies.extend fun _ => rfl
  readKeys _ _ _ tallies := tallies.extend fun _ => rfl
  draw _ _ _ _ tallies := tallies.extend fun _ => rfl
  cleanup _ _ _ tallies := tallies.extend fun _ => rfl
  now _ _ _ tallies := tallies
  sleep _ _ _ _ tallies := tallies
  notify event records desk world tallies := by
    refine tallies.extend fun works => ?_
    have answered := ok_of_failure?_told works
    refine (faults_notify host logger interval Headless.frontend desk
      (Prod.ext (Prod.ext answered rfl) rfl)).trans ?_
    simp [Record.signal?, List.countP_singleton]

private theorem Ending.failure?_of_not_failed
    {ending : Ending} (noFailure : ∀ failure, ending ≠ .failed failure) :
    ending.failure? = none := by
  cases ending with
  | failed failure => exact absurd rfl (noFailure failure)
  | complete | stopped | halted | unfinished => rfl

/-! ## Headless sessions -/

private theorem failure?_of_mem_framed
    (config : Config) {between : List Record} {result : Result}
    (smooth : Smooth between)
    (noFailure : ∀ failure, result.ending ≠ .failed failure) :
    ∀ record ∈
        openingRecords config ++ between ++ .released :: result.farewell,
      record.failure? = none := by
  have ends : ∀ record ∈ result.farewell, record.failure? = none := by
    unfold Result.farewell
    cases ending : result.ending with
    | failed failure => exact absurd ending (noFailure failure)
    | complete | stopped | halted | unfinished => simp [Record.failure?]
  simp only [List.forall_mem_append, List.forall_mem_cons]
  refine ⟨⟨?_, fun record belongs => (smooth record belongs).2⟩, rfl, ends⟩
  simp [openingRecords, Record.failure?]

theorem run_runHeadless
    {m : Type → Type} [Monad m] [LawfulMonad m] (devices : Devices (StateT Desk m))
    (config : Config) (frames : Int) (schedule : Nat → KeySet) (progress : Bool)
    (machine : Machine) :
    (runHeadless devices config frames schedule progress machine).run {} =
      (run { devices with frontend := Headless.frontend }
        { config with fps := 0 } (some frames) progress 0
        { machine := machine }).run { headless := { schedule := schedule } } := by
  have placed :
      (set ({ schedule := schedule } : Headless) : StateT Desk m PUnit).run {} =
        pure (⟨⟩, { headless := { schedule := schedule } }) :=
    pure_bind _ _
  rw [runHeadless, StateT.run_bind, placed, pure_bind]

/-- A headless session that does not fail leaves all its faults on the desk, and
it was halted if one of them had to halt it. -/
theorem faults_of_runHeadless
    (host : CommandLine.Host (StateM σ)) (logger : Logger) (interval : Int)
    {config : Config} {frames : Int} {schedule : Nat → KeySet}
    {progress : Bool} {machine : Machine} {after : Desk} {world later : σ}
    {result : Result}
    (ran :
      ((runHeadless (host.devices logger interval Headless.frontend) config
          frames schedule progress machine).run {}).run world =
        ((result, after), later))
    (noFailure : ∀ failure, result.ending ≠ .failed failure) :
    result.session.stats.halted =
      (decide (0 < after.statistics.faults) && config.haltOnFault) := by
  let devices := host.devices logger interval Headless.frontend
  obtain ⟨added, recorded, course⟩ :=
    (follows_run devices { config with fps := 0 } (some frames) progress 0
      { machine := machine }).exists_added_above []
        { headless := { schedule := schedule } } world
  have tallies :=
    holds_run (within_tallying host logger interval) { config with fps := 0 }
      (some frames) progress 0 { machine := machine } []
      { headless := { schedule := schedule } } world fun _ => rfl
  have sameRun :
      ((run devices { config with fps := 0 } (some frames) progress 0
        { machine := machine }).run
          { headless := { schedule := schedule } }).run world =
        ((result, after), later) := by
    rw [← ran, run_runHeadless]
    rfl
  rw [sameRun] at recorded course
  simp only [devices] at recorded
  simp only [recorded, List.nil_append] at tallies
  rcases course with ⟨failure, failed, -⟩ | ⟨unlimited, -⟩ |
    ⟨played, final, elapsed, frames, isSession, rfl⟩
  · exact absurd failed (noFailure failure)
  · cases unlimited
  · have works :=
      failure?_of_mem_framed { config with fps := 0 } frames.smooth noFailure
    have faultCount : after.statistics.faults = final.stats.faultCount := by
      rw [tallies works, signalsSeen_framed _ _ noFailure,
        frames.signals noFailure, frames.faultCount]
      simp [countP_frameSignals, Signal.isFault]
    have halted := frames.halted_iff noFailure
    rw [isSession, Bool.eq_iff_iff, Bool.and_eq_true, decide_eq_true_iff,
      faultCount]
    exact halted.trans And.comm

end Session


/-! ## Settings that cannot be announced -/

/-- A setting other than the rate has too many digits to be written.  A headless
session has no rate. -/
def Config.Unwritable (config : Config) : Prop :=
  ∃ entry ∈ config.entries, entry.1 ≠ "fps" ∧ entry.2.isWritable = false

private theorem Config.Unwritable.withoutRate
    {config : Config} (unwritable : config.Unwritable) :
    ∃ entry ∈ entries { config with fps := 0 }, entry.2.isWritable = false := by
  obtain ⟨entry, listed, notRate, tooLong⟩ := unwritable
  refine ⟨entry, ?_, tooLong⟩
  simp only [entries, List.mem_cons] at listed ⊢
  rcases listed with first | rate | others
  · exact .inl first
  · exact absurd (congrArg Prod.fst rate) notRate
  · exact .inr (.inr others)

section

variable {σ : Type}

private theorem Logger.exists_run_listValues
    (logger : Logger) (sink : LogSink (StateM σ)) (text : Value → String)
    {values : List (String × Value)}
    (unwritable : ∃ entry ∈ values, entry.2.isWritable = false) (world : σ) :
    ∃ after,
      (logger.listValues sink text values).run world =
        (.error .unwritable, after) := by
  induction values generalizing world with
  | nil => simp at unwritable
  | cons entry rest inductionHypothesis =>
      rcases entry with ⟨name, value⟩
      unfold listValues
      by_cases writable : value.isWritable
      · have later : ∃ entry ∈ rest, entry.2.isWritable = false := by
          simpa [writable] using unwritable
        rw [if_pos writable, run_bind]
        exact inductionHypothesis later _
      · rw [if_neg writable]
        exact ⟨world, rfl⟩

private theorem Logger.exists_run_observe
    (logger : Logger) (sink : LogSink (StateM σ)) (interval : Int)
    {settings : List (String × Value)}
    (unwritable : ∃ entry ∈ settings, entry.2.isWritable = false) (world : σ) :
    ∃ after,
      (logger.observe sink interval (.started settings)).run world =
        (.error .unwritable, after) := by
  unfold observe reportStart
  rw [run_bind, run_bind]
  exact logger.exists_run_listValues sink Value.display unwritable _

/-- A session that cannot announce its settings leaves its machine as it is. -/
theorem Session.exists_run_runHeadless
    (host : CommandLine.Host (StateM σ)) (logger : Logger) (interval : Int)
    {config : Config} (unwritable : config.Unwritable) (frames : Int)
    (schedule : Nat → KeySet) (progress : Bool) (machine : Machine) (world : σ) :
    ∃ after,
      ((runHeadless (host.devices logger interval Headless.frontend) config
          frames schedule progress machine).run {}).run world =
        (({ session := { machine := machine }, ending := .failed .unwritable },
          { headless := { schedule := schedule } }), after) := by
  obtain ⟨after, observed⟩ :=
    logger.exists_run_observe host.log interval unwritable.withoutRate world
  have told :=
    run_notify_of_error host logger interval Headless.frontend
      { headless := { schedule := schedule } } observed
  refine ⟨after, ?_⟩
  rw [run_runHeadless, run]
  simp only [frameDuration, Int.lt_irrefl, if_false]
  rw [StateT.run_bind, run_bind]
  simp only [told]
  rfl

end

private theorem Machine.exists_load
    (machine : Machine) {program : List UInt8}
    (fits : program.length ≤ programCapacity) :
    ∃ next, machine.load program = .ok next := by
  have inside : programStart + program.length ≤ memorySize :=
    Nat.add_le_of_le_sub' (by decide) fits
  exact ⟨_, load_eq_ok_iff.mpr ⟨inside, rfl⟩⟩

/-! ## The command -/

section

open CommandLine

/-- A headless session without pictures and videos decides how the command
ends. -/
theorem CommandLine.Host.run_play_of_headless
    {σ : Type} (host : Host (StateM σ)) (logger : Logger) (config : Config)
    (machine : Machine) (world : σ) {arguments : Arguments}
    (headless : arguments.interface = .headless)
    (unpictured : Arguments.given arguments.screenshot = none)
    (unrecorded : Arguments.given arguments.record = none) :
    ∃ result desk between,
      ((Session.runHeadless
          (host.devices logger config.logInterval Headless.frontend) config
          (arguments.frames.getD usualFrames) (fun _ => ∅) true machine).run
            {}).run world = ((result, desk), between) ∧
      (∀ failure, result.ending = .failed failure →
        ((host.play logger arguments config machine).run world).1 =
          .problem (.failure failure)) ∧
      ((∀ failure, result.ending ≠ .failed failure) →
        ((host.play logger arguments config machine).run world).1 =
          .exit (if result.session.stats.halted then 1 else 0)) := by
  have isHeadless : arguments.isHeadless = true := by
    simp [Arguments.isHeadless, headless]
  rcases ran :
      ((Session.runHeadless
          (host.devices logger config.logInterval Headless.frontend) config
          (arguments.frames.getD usualFrames) (fun _ => ∅) true machine).run
            {}).run world with
    ⟨⟨result, desk⟩, between⟩
  have unsaved :
      host.saveFrames logger arguments config desk.headless.frames =
        pure (.ok ()) := by
    simp only [Host.saveFrames, unpictured, unrecorded, pure_bind]
  refine ⟨result, desk, between, rfl, ?_, ?_⟩
  · intro failure failed
    unfold Host.play Host.runSession
    simp only [isHeadless, if_true]
    rw [run_bind, ran]
    simp only [failed, Session.Ending.failure?]
    cases result.bar <;> rfl
  · intro noFailure
    have works := Session.Ending.failure?_of_not_failed noFailure
    rw [Session.faults_of_runHeadless host logger config.logInterval ran noFailure]
    unfold Host.play Host.runSession
    simp only [isHeadless, if_true]
    rw [run_bind, ran]
    simp only [works, unsaved, pure_bind]
    cases result.bar <;> rfl

namespace Scripted.World

variable (layering : Config.Layering)

/-- The settings are rejected with a report, or less than one frame is asked
for. -/
def Refused (world : World) (arguments : Arguments) : Prop :=
  (∃ error, settings layering world arguments = .error error ∧ error.isReported) ∨
    ∃ frames, arguments.frames = some frames ∧ frames < 1

section

variable {layering : Config.Layering} {world : World} {arguments : Arguments}
  (reported : ∀ error,
    settings layering world arguments = .error error → error.isReported)

include reported

private theorem execute_of_refused
    (refused : Refused layering world arguments) :
    ∃ after, after.opened = arguments.config.toList ++ world.opened ∧
      ∀ play, ((reading layering).execute arguments play).run world =
        (.exit 2, after) := by
  cases loaded : settings layering world arguments with
  | error error =>
      obtain ⟨log, clock, answers⟩ := execute_of_rejected loaded
      simp only [reported error loaded, if_true] at answers
      exact ⟨_, rfl, answers⟩
  | ok config =>
      rcases refused with ⟨error, rejected, -⟩ | ⟨frames, asked, few⟩
      · cases loaded.symm.trans rejected
      · obtain ⟨log, clock, answers⟩ := execute_of_few loaded asked few
        exact ⟨_, rfl, answers⟩

private theorem execute_of_not_refused
    (accepted : ¬ Refused layering world arguments) :
    ∃ config logger ready,
      settings layering world arguments = .ok config ∧
      ready.files = world.files ∧
      ready.opened = arguments.config.toList ++ world.opened ∧
      ∀ play, ((reading layering).execute arguments play).run world =
        ((reading layering).start play logger arguments config).run ready := by
  cases loaded : settings layering world arguments with
  | error error =>
      exact absurd (.inl ⟨error, loaded, reported error loaded⟩) accepted
  | ok config =>
      have enough : ∀ frames, arguments.frames = some frames → 1 ≤ frames := by
        intro frames asked
        by_contra few
        exact accepted (.inr ⟨frames, asked, Int.not_le.mp few⟩)
      obtain ⟨logger, clock, starts⟩ := execute_of_enough loaded enough
      exact ⟨config, logger,
        { world.afterSettings arguments with logClock := clock }, rfl, rfl, rfl,
        starts⟩

end

/-- With a program that can be loaded the command comes to its session, and the
session decides how it ends. -/
theorem exists_session_of_loadable
    {world : World} {arguments : Arguments}
    (headless : arguments.interface = .headless)
    (unpictured : Arguments.given arguments.screenshot = none)
    (unrecorded : Arguments.given arguments.record = none)
    (loadable : world.Loadable arguments)
    (logger : Logger) (config : Config) (fresh : Machine) :
    ∃ program machine ready result desk later,
      world.files.read arguments.rom = .ok program ∧
      fresh.load program = .ok machine ∧
      (∀ play,
        ((reading layering).launch play logger arguments config fresh).run world =
          (play logger arguments config machine).run ready) ∧
      ((Session.runHeadless
          ((reading layering).devices logger config.logInterval
            Headless.frontend) config
          (arguments.frames.getD usualFrames) (fun _ => ∅) true machine).run
            {}).run ready = ((result, desk), later) ∧
      (∀ failure, result.ending = .failed failure →
        (((reading layering).play logger arguments config machine).run ready).1 =
          .problem (.failure failure)) ∧
      ((∀ failure, result.ending ≠ .failed failure) →
        (((reading layering).play logger arguments config machine).run ready).1 =
          .exit (if result.session.stats.halted then 1 else 0)) ∧
      (config.Unwritable →
        result.ending = .failed .unwritable ∧
          result.session = { machine := machine }) := by
  obtain ⟨program, content, fits⟩ := loadable
  obtain ⟨machine, loads⟩ := Machine.exists_load fresh fits
  obtain ⟨log, clock, launches⟩ :=
    launch_of_loaded layering logger config content loads
  obtain ⟨result, desk, later, plays, fails, ends⟩ :=
    (reading layering).run_play_of_headless logger config machine
      { world with
        opened := arguments.rom :: world.opened
        log := log
        logClock := clock }
      headless unpictured unrecorded
  refine ⟨program, machine, _, result, desk, later, content, loads, launches,
    plays, fails, ends, fun unwritable => ?_⟩
  obtain ⟨last, breaksOff⟩ :=
    Session.exists_run_runHeadless (reading layering) logger config.logInterval
      unwritable (arguments.frames.getD usualFrames) (fun _ => ∅) true machine _
  cases plays.symm.trans breaksOff
  exact ⟨rfl, rfl⟩

/-- The exit code of a headless command without pictures and videos, if no error
about the settings gets past the reports of the command.  It is 2 if the command
is refused, and then nothing but the settings file is opened.  Otherwise it is 1
if the program cannot be loaded or the session is halted by a fault, and 0 if it
is not.  Without a loaded program it makes no difference what a session would
do.  A failure of the session is passed on in place of an exit code, and settings
that cannot be announced always make it fail, before the first cycle. -/
theorem command_exitCode
    {layering : Config.Layering} {words : List String} {arguments : Arguments}
    {world after : World} {outcome : CommandLine.Outcome}
    (parsed : parse words = .ok (.session arguments))
    (headless : arguments.interface = .headless)
    (unpictured : Arguments.given arguments.screenshot = none)
    (unrecorded : Arguments.given arguments.record = none)
    (ran : ((reading layering).command words).run world = (outcome, after)) :
    (∀ error, settings layering world arguments = .error error →
      ¬ error.isReported → outcome = .problem (.config error)) ∧
    ((∀ error, settings layering world arguments = .error error →
        error.isReported) →
      (outcome = .exit 2 ↔ Refused layering world arguments) ∧
      (Refused layering world arguments →
        after.opened = arguments.config.toList ++ world.opened ∧
        ∀ play, ((reading layering).command words play).run world =
          (outcome, after)) ∧
      (¬ Refused layering world arguments →
        ∃ config, settings layering world arguments = .ok config ∧
        (∀ error,
          Machine.create
            (RandomSource.seeded config.seed RandomSource.usualBlockSize)
            config.stackLimit = .error error →
          outcome = .problem (.machine error)) ∧
        ∀ fresh,
          Machine.create
            (RandomSource.seeded config.seed RandomSource.usualBlockSize)
            config.stackLimit = .ok fresh →
          (¬ world.Loadable arguments →
            outcome = .exit 1 ∧
            after.opened =
              arguments.rom :: (arguments.config.toList ++ world.opened) ∧
            ∀ play, ((reading layering).command words play).run world =
              (outcome, after)) ∧
          (world.Loadable arguments →
            ∃ program machine logger ready result desk later,
              world.files.read arguments.rom = .ok program ∧
              fresh.load program = .ok machine ∧
              (∀ play, ((reading layering).command words play).run world =
                (play logger arguments config machine).run ready) ∧
              ((Session.runHeadless
                  ((reading layering).devices logger config.logInterval
                    Headless.frontend) config
                  (arguments.frames.getD usualFrames) (fun _ => ∅) true
                  machine).run {}).run ready = ((result, desk), later) ∧
              (∀ failure, result.ending = .failed failure →
                outcome = .problem (.failure failure)) ∧
              ((∀ failure, result.ending ≠ .failed failure) →
                outcome = .exit (if result.session.stats.halted then 1 else 0)) ∧
              (config.Unwritable →
                result.ending = .failed .unwritable ∧
                  result.session = { machine := machine })))) := by
  have executes : ∀ play,
      (reading layering).command words play =
        (reading layering).execute arguments play := by
    intro play
    unfold Host.command
    rw [parsed]
  simp only [executes] at ran ⊢
  refine ⟨?_, fun reported => ?_⟩
  · intro error rejected escapes
    obtain ⟨log, clock, answers⟩ := execute_of_rejected rejected
    rw [answers, if_neg escapes] at ran
    exact (congrArg Prod.fst ran).symm
  by_cases refused : Refused layering world arguments
  · obtain ⟨last, opened, answers⟩ := execute_of_refused reported refused
    obtain ⟨rfl, rfl⟩ := Prod.mk.inj ((answers _).symm.trans ran)
    exact ⟨iff_of_true rfl refused, fun _ => ⟨opened, answers⟩,
      fun accepted => absurd refused accepted⟩
  obtain ⟨config, logger, ready, loaded, sameFiles, opened, starts⟩ :=
    execute_of_not_refused reported refused
  simp only [starts] at ran ⊢
  -- Nothing behind the settings and the number of frames answers with 2.
  suffices settled : outcome ≠ .exit 2 ∧ _ from
    ⟨iff_of_false settled.1 refused, fun no => absurd no refused,
      fun _ => ⟨config, loaded, settled.2⟩⟩
  cases created :
      Machine.create
        (RandomSource.seeded config.seed RandomSource.usualBlockSize)
        config.stackLimit with
  | error error =>
      simp only [Host.start_of_error _ _ created] at ran
      obtain ⟨rfl, -⟩ := Prod.mk.inj ran
      refine ⟨by simp, ?_, by simp⟩
      rintro _ ⟨⟩
      rfl
  | ok fresh =>
      simp only [Host.start_of_created _ _ created] at ran ⊢
      by_cases loadable : world.Loadable arguments
      · have ableWhenReady : ready.Loadable arguments := by
          unfold Loadable
          rwa [sameFiles]
        obtain ⟨program, machine, playing, result, desk, later, content, loads,
          launches, plays, fails, ends, unannounced⟩ :=
            exists_session_of_loadable layering headless unpictured unrecorded
              ableWhenReady logger config fresh
        rw [← launches, ran] at fails ends
        rw [sameFiles] at content
        refine ⟨?_, by simp, ?_⟩
        · intro isTwo
          by_cases failed : ∃ failure, result.ending = .failed failure
          · obtain ⟨failure, failed⟩ := failed
            cases isTwo.symm.trans (fails failure failed)
          · have code := isTwo.symm.trans (ends (not_exists.mp failed))
            split at code <;> cases code
        · rintro _ ⟨⟩
          exact ⟨fun unable => absurd loadable unable, fun _ =>
            ⟨program, machine, logger, playing, result, desk, later, content,
              loads, launches, plays, fails, ends, unannounced⟩⟩
      · have unable : ¬ ready.Loadable arguments := by
          unfold Loadable
          rwa [sameFiles]
        obtain ⟨log, clock, answers⟩ :=
          launch_of_not_loadable layering logger config fresh unable
        obtain ⟨rfl, rfl⟩ := Prod.mk.inj ((answers _).symm.trans ran)
        refine ⟨by simp, by simp, ?_⟩
        rintro _ ⟨⟩
        exact ⟨fun _ => ⟨rfl, congrArg (arguments.rom :: ·) opened, answers⟩,
          fun able => absurd able loadable⟩

/-- A command for a program that is one byte too long. -/
def longArguments : Arguments where
  rom := "rom"
  interface := .headless
  overrides := ["seed=7"]
  frames := some 3

def longWords : List String :=
  ["rom", "--interface", "headless", "--set", "seed=7", "--frames", "3"]

def longWorld : World where
  files := [("rom", List.replicate 3585 0x12)]

theorem settings_long :
    settings Config.readLayers longWorld longArguments = .ok { seed := 7 } := by
  have loaded : Config.load none ["seed=7"] = .ok { seed := 7 } :=
    Config.load_of_seedOnly? (by decide +kernel)
  exact loaded

theorem not_loadable_long : ¬ longWorld.Loadable longArguments := by
  rintro ⟨program, content, fits⟩
  obtain ⟨name, isFile⟩ := Files.exists_mem_of_read content
  have isProgram : program = List.replicate 3585 0x12 :=
    (Prod.mk.inj (List.mem_singleton.mp isFile)).2
  rw [isProgram, List.length_replicate] at fits
  exact absurd fits (by decide)

theorem not_refused_of_settings
    {world : World} {arguments : Arguments} {config : Config}
    (loaded : settings layering world arguments = .ok config)
    (enough : ∀ frames, arguments.frames = some frames → 1 ≤ frames) :
    ¬ Refused layering world arguments := by
  rintro (⟨error, rejected, -⟩ | ⟨frames, asked, few⟩)
  · cases loaded.symm.trans rejected
  · exact absurd (enough frames asked) (Int.not_le.mpr few)

theorem command_exitCode_long :
    let ending := (host.command longWords).run longWorld
    ¬ Refused Config.readLayers longWorld longArguments ∧
      ¬ longWorld.Loadable longArguments ∧
      ending.1 = .exit 1 ∧ ending.2.opened = ["rom"] ∧
      ∀ play, (host.command longWords play).run longWorld = ending := by
  intro ending
  have parsed : parse longWords = .ok (.session longArguments) := by
    decide +kernel
  have accepted :=
    not_refused_of_settings Config.readLayers settings_long
      (by simp [longArguments])
  have inRange := Config.inRange_defaults.with_seed 7
  have created := inRange.create_eq
  rw [if_pos (by decide)] at created
  have ran :
      ((reading Config.readLayers).command longWords).run longWorld =
        (ending.1, ending.2) :=
    rfl
  obtain ⟨-, -, proceeds⟩ :=
    (command_exitCode parsed rfl rfl rfl ran).2 fun error rejected => by
      cases settings_long.symm.trans rejected
  obtain ⟨config, loaded, -, launched⟩ := proceeds accepted
  cases settings_long.symm.trans loaded
  exact ⟨accepted, not_loadable_long,
    (launched _ created).1 not_loadable_long⟩

end Scripted.World

/-! ## An interval that cannot be written -/

private theorem Yaml.Scalar.ofPlain_hexadecimal
    {digits : List Char} (nonempty : digits ≠ [])
    (below : ∀ char ∈ digits, isDigitBelow 16 char = true ∧ char ≠ '_') :
    ofPlain ('0' :: 'x' :: digits) = .plain (.int (digitsValue 16 digits)) := by
  have noReal : real? ('0' :: 'x' :: digits) = none := by
    simp [real?, splitSign, isDigitBelow, isDigitRun, isExponent]
  have allBelow : digits.all (isDigitBelow 16) = true :=
    List.all_eq_true.mpr fun char belongs => (below char belongs).1
  have kept : dropUnderscores digits = digits := by
    refine List.filter_eq_self.mpr fun char belongs => ?_
    simpa using (below char belongs).2
  have isInteger :
      int? ('0' :: 'x' :: digits) =
        some (.plain (.int (digitsValue 16 digits))) := by
    simp [int?, splitSign, basedInteger?, nonempty, allBelow, kept, withSign]
  rw [ofPlain_of_beginsInteger (by decide), noReal, isInteger]
  rfl

structure Yaml.IsHexadecimal (digits : List Char) : Prop where
  nonempty : digits ≠ []
  letters : ∀ char ∈ digits, isWordLetter char = true
  below : ∀ char ∈ digits, Scalar.isDigitBelow 16 char = true ∧ char ≠ '_'

theorem Yaml.IsHexadecimal.read
    {digits : List Char} (isHexadecimal : IsHexadecimal digits) :
    Yaml.read (.ofList ('0' :: 'x' :: digits)) =
      .ok (.int (Scalar.digitsValue 16 digits)) := by
  have letters : ∀ char ∈ '0' :: 'x' :: digits, isWordLetter char = true := by
    simp only [List.forall_mem_cons]
    exact ⟨by decide, by decide, isHexadecimal.letters⟩
  rw [read_word (isWord_of_letters (List.cons_ne_nil _ _) letters), Node.value,
    Scalar.ofPlain_hexadecimal isHexadecimal.nonempty isHexadecimal.below]

namespace Config

/-- A setting of the interval in hexadecimal, which may have any length. -/
def intervalSetting (digits : List Char) : String :=
  "log_interval" ++ "=" ++ .ofList ('0' :: 'x' :: digits)

private theorem load_intervalSetting
    {digits : List Char} (isHexadecimal : Yaml.IsHexadecimal digits) :
    load none [intervalSetting digits] =
      .ok { logInterval := Yaml.Scalar.digitsValue 16 digits } := by
  have inRange : InRange { logInterval := Yaml.Scalar.digitsValue 16 digits } :=
    { inRange_defaults with logInterval := Int.natCast_nonneg _ }
  have undivided : ∀ char ∈ "log_interval".toList,
      char ≠ '=' ∧ char ≠ '.' ∧ char ≠ '[' := by
    simp
  have assigns :
      Assigns (intervalSetting digits)
        ("log_interval", .int (Yaml.Scalar.digitsValue 16 digits)) :=
    ⟨⟨_, rfl, isHexadecimal.read⟩, undivided, rfl, rfl⟩
  have read := overrideLayer_of_assigns (.cons assigns .nil)
  exact inRange.load_eq_ok rfl read rfl rfl

private theorem unwritable_of_interval
    {interval : Int} (tooLong : Numeral.isWritable interval = false) :
    Unwritable { logInterval := interval } := by
  refine ⟨("log_interval", .int interval), ?_, ?_, tooLong⟩
  · simp [entries]
  · simp

end Config

namespace CommandLine

theorem classifyAll_cons
    {word : String} {item : Item} {rest : List String} {items : List Item}
    (notSeparator : word ≠ "--")
    (first : classify word = .ok item) (others : classifyAll rest = .ok items) :
    classifyAll (word :: rest) = .ok (item :: items) := by
  rw [classifyAll.eq_3 _ _ notSeparator, first, others]
  rfl

private theorem classify_of_undashed
    {word : String} (undashed : word.toList.head? ≠ some '-') :
    word ≠ "--" ∧ classify word = .ok (.argument word) := by
  have noStart : word.startsWith "-" = false := by
    rw [Bool.eq_false_iff]
    intro starts
    obtain ⟨rest, isWord⟩ := String.startsWith_string_iff.mp starts
    exact undashed (by rw [← isWord]; rfl)
  refine ⟨?_, by simp [classify, noStart]⟩
  rintro rfl
  exact undashed (by decide)

private theorem parse_headless
    {setting : String} (undashed : setting.toList.head? ≠ some '-') :
    parse ["rom", "--interface", "headless", "--set", setting] =
      .ok (.session
        { rom := "rom", interface := .headless, overrides := [setting] }) := by
  obtain ⟨notSeparator, isArgument⟩ := classify_of_undashed undashed
  have classified :
      classifyAll ["rom", "--interface", "headless", "--set", setting] =
        .ok [.argument "rom", .option .interface none, .argument "headless",
          .option .set none, .argument setting] := by
    refine classifyAll_cons (by decide) (by decide +kernel) ?_
    refine classifyAll_cons (by decide) (by decide +kernel) ?_
    refine classifyAll_cons (by decide) (by decide +kernel) ?_
    refine classifyAll_cons (by decide) (by decide +kernel) ?_
    exact classifyAll_cons notSeparator isArgument rfl
  rw [parse, classified]
  rfl

end CommandLine

namespace Scripted.World

/-- The digits of an interval that is too large to be written in decimal. -/
def hugeDigits : List Char := List.replicate 3600 'f'

private theorem isHexadecimal_hugeDigits : Yaml.IsHexadecimal hugeDigits where
  nonempty := by
    apply List.ne_nil_of_length_pos
    rw [hugeDigits, List.length_replicate]
    decide
  letters := by
    intro char belongs
    rw [List.eq_of_mem_replicate belongs]
    decide
  below := by
    intro char belongs
    rw [List.eq_of_mem_replicate belongs]
    decide

def hugeArguments : Arguments where
  rom := "rom"
  interface := .headless
  overrides := [Config.intervalSetting hugeDigits]

def hugeWords : List String :=
  ["rom", "--interface", "headless", "--set", Config.intervalSetting hugeDigits]

/-- A world with a program that runs on the spot. -/
def hugeWorld : World where
  files := [("rom", [0x12, 0x00])]

theorem parse_huge : parse hugeWords = .ok (.session hugeArguments) := by
  refine parse_headless ?_
  simp [Config.intervalSetting]

theorem loadable_huge : hugeWorld.Loadable hugeArguments := by
  refine ⟨[0x12, 0x00], ?_, by decide⟩
  decide +kernel

/-- The settings are accepted, the machine is built and the program can be
loaded, but the session fails before its first cycle and the command has no exit
code. -/
theorem hugeInterval_without_exitCode :
    parse hugeWords = .ok (.session hugeArguments) ∧
      hugeArguments.interface = .headless ∧
      ¬ Refused Config.readLayers hugeWorld hugeArguments ∧
      (∃ config machine,
        settings Config.readLayers hugeWorld hugeArguments = .ok config ∧
        Machine.create
          (RandomSource.seeded config.seed RandomSource.usualBlockSize)
          config.stackLimit = .ok machine) ∧
      hugeWorld.Loadable hugeArguments ∧
      ((host.command hugeWords).run hugeWorld).1 =
        .problem (.failure .unwritable) := by
  have loaded :
      settings Config.readLayers hugeWorld hugeArguments =
        .ok { logInterval := Yaml.Scalar.digitsValue 16 hugeDigits } :=
    Config.load_intervalSetting isHexadecimal_hugeDigits
  have tooLong :
      Numeral.isWritable (Yaml.Scalar.digitsValue 16 hugeDigits) = false := by
    decide +kernel
  have enough : ∀ frames, hugeArguments.frames = some frames → 1 ≤ frames := by
    intro frames asked
    cases asked
  have created :
      Machine.create (RandomSource.seeded 0 RandomSource.usualBlockSize) none =
        .ok (Config.firstMachine {}) := by
    have created := Config.inRange_defaults.create_eq
    rwa [if_pos (by decide)] at created
  refine ⟨parse_huge, rfl, not_refused_of_settings _ loaded enough,
    ⟨_, _, loaded, created⟩, loadable_huge, ?_⟩
  obtain ⟨logger, clock, starts⟩ := execute_of_enough loaded enough
  have readyLoadable :
      Loadable { hugeWorld.afterSettings hugeArguments with logClock := clock }
        hugeArguments :=
    loadable_huge
  obtain ⟨program, machine, ready, result, desk, later, -, -, launches, -, fails,
    -, unannounced⟩ :=
      exists_session_of_loadable Config.readLayers rfl rfl rfl readyLoadable
        logger { logInterval := Yaml.Scalar.digitsValue 16 hugeDigits }
        (Config.firstMachine {})
  have failed := (unannounced (Config.unwritable_of_interval tooLong)).1
  rw [← reading_readLayers, Host.command, parse_huge]
  simp only
  rw [starts, Host.start_of_created _ _ created, launches]
  exact fails _ failed

end Scripted.World

end

end Chip8
