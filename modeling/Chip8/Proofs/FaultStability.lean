import Chip8.Proofs.Accounting
import Chip8.Proofs.Execution

/-!
# Stable faults

A fault depends on the memory, the counter, the index and the height of the
stack only, and it leaves them alone.  So a machine that has raised a fault
raises it again in every later cycle, whatever keys are held and however far
the timers have counted down.  A session that a fault has halted therefore
comes to the same fault in the first cycle when it is run again.
-/

namespace Chip8

namespace Machine

theorem exists_fault_congr
    {first second : Machine} {keys : KeySet} {fault : Fault}
    (sameMemory : first.memory = second.memory)
    (sameCounter : first.counter = second.counter)
    (sameIndex : first.index = second.index)
    (sameHeight : first.stack.length = second.stack.length)
    (sameLimit : first.stackLimit = second.stackLimit)
    (faulted : ∃ after, first.cycle keys = .fault fault after)
    (otherKeys : KeySet) :
    ∃ after, second.cycle otherKeys = .fault fault after := by
  obtain ⟨after, broken⟩ := faulted
  obtain ⟨rfl, _⟩ := cycle_eq_fault_iff.mp broken
  exact ⟨second, cycle_fault_congr sameMemory sameCounter sameIndex sameHeight
    sameLimit broken otherKeys⟩

/-- Every cycle raises this fault, whatever keys are held. -/
def StuckAt (machine : Machine) (fault : Fault) : Prop :=
  ∀ keys, machine.cycle keys = .fault fault machine

private theorem stuckAt_of_cycle
    {machine after : Machine} {keys : KeySet} {fault : Fault}
    (broken : machine.cycle keys = .fault fault after) :
    after.StuckAt fault := by
  obtain ⟨rfl, _⟩ := cycle_eq_fault_iff.mp broken
  exact cycle_fault_congr rfl rfl rfl rfl rfl broken

theorem StuckAt.countDown
    {machine : Machine} {fault : Fault} (stuck : machine.StuckAt fault) :
    machine.countDown.StuckAt fault := by
  have sameFaults :=
    @cycle_fault_congr machine machine.countDown ∅ fault rfl rfl rfl rfl rfl
  exact sameFaults (stuck ∅)

end Machine

namespace Session

/-! ## A session that a fault has halted -/

private theorem stuckAt_of_playCycles
    {haltOnFault : Bool} {keys : KeySet} {count : Nat} {machine : Machine}
    (halts : (playCycles haltOnFault keys count machine).course = .halted) :
    haltOnFault = true ∧ 0 < count ∧
      ∃ fault,
        (playCycles haltOnFault keys count machine).faults.getLast? =
            some fault ∧
          (playCycles haltOnFault keys count machine).machine.StuckAt
            fault := by
  induction count generalizing machine with
  | zero => simp [playCycles] at halts
  | succ count inductionHypothesis =>
      unfold playCycles at halts ⊢
      cases ended : machine.cycle keys with
      | done next =>
          simp only [ended] at halts
          obtain ⟨halting, _, stuck⟩ := inductionHypothesis halts
          exact ⟨halting, Nat.succ_pos count, stuck⟩
      | failure failure after => simp [ended] at halts
      | fault fault after =>
          cases haltOnFault with
          | true =>
              exact ⟨rfl, Nat.succ_pos count, fault, rfl,
                Machine.stuckAt_of_cycle ended⟩
          | false =>
              simp only [ended] at halts
              obtain ⟨halting, _⟩ := inductionHypothesis halts
              cases halting

private theorem Played.stuckAt
    {config : Config} {limit : Option Int} {given : Nat}
    {session final : Session} {records : List Record}
    (played : Played config limit given session records final .halted) :
    config.haltOnFault = true ∧ 1 ≤ config.instructionsPerFrame ∧
      ∃ fault,
        final.stats.lastFault = some fault ∧ final.machine.StuckAt fault := by
  generalize isHalted : Ending.halted = ending at played
  induction played with
  | complete _ | stopped _ | failed _ _ => cases isHalted
  | next _ _ _ inductionHypothesis => exact inductionHypothesis isHalted
  | halted _ halts =>
      obtain ⟨halting, anyCycle, fault, latest, stuck⟩ :=
        stuckAt_of_playCycles halts
      refine ⟨halting, by omega, fault, ?_, stuck⟩
      simp [counted, after, Stats.after, playFrame, latest]

private theorem stuckAt_of_run
    {σ : Type} {devices : Devices (StateM σ)} {config : Config}
    {limit : Option Int} {progress : Bool} {patience : Nat}
    {session : Session} {world after : σ} {result : Result}
    (ran :
      (session.run devices config limit progress patience).run world =
        (result, after))
    (halted : result.ending = .halted) :
    config.haltOnFault = true ∧ 1 ≤ config.instructionsPerFrame ∧
      ∃ fault,
        result.session.stats.lastFault = some fault ∧
          result.session.machine.StuckAt fault := by
  obtain ⟨added, _, course⟩ :=
    (follows_run devices config limit progress patience session).exists_added
      [] world
  rw [ran] at course
  simp only [halted] at course
  rcases course with ⟨failure, failed, _⟩ | ⟨_, unfinished⟩ |
    ⟨played, final, elapsed, frames, isSession, _⟩
  · cases failed
  · cases unfinished
  · rw [isSession]
    exact frames.stuckAt

/-! ## Running a session that is stuck -/

namespace Record

def fault? : Record → Option Fault
  | .told (.fault _ fault) _ => some fault
  | _ => none

def answer? : Record → Option (Except Failure (Option KeySet))
  | .asked answer => some answer
  | _ => none

theorem unasked_of_answers
    {records : List Record} {answer : Except Failure (Option KeySet)}
    (unanswered : answer ∉ records.filterMap answer?) :
    .asked answer ∉ records := by
  intro asked
  exact unanswered (List.mem_filterMap.mpr ⟨_, asked, rfl⟩)

end Record

def countDown (session : Session) : Session :=
  { session with machine := session.machine.countDown }

/-- One fault has been counted and nothing else has happened, except that
frames and time have passed. -/
structure FaultedOnce (fault : Fault) (before after : Session) : Prop where
  machine : after.machine = before.machine
  instructions : after.stats.instructions = before.stats.instructions
  faultCount : after.stats.faultCount = before.stats.faultCount + 1
  firstFault :
    after.stats.firstFault = some (before.stats.firstFault.getD fault)
  lastFault : after.stats.lastFault = some fault

theorem FaultedOnce.passing
    {fault : Fault} {before after : Session}
    (once : FaultedOnce fault before after) (frames : Nat) (elapsed : Float) :
    FaultedOnce fault before
      { after with
        stats := { after.stats with frames := frames, elapsed := elapsed } } :=
  ⟨once.machine, once.instructions, once.faultCount, once.firstFault,
    once.lastFault⟩

/-- A frame is over after one fault, which is the only one on record. -/
structure OverAfter (fault : Fault) (before : Session) (added : List Record)
    (result : Session × Course) : Prop where
  once : FaultedOnce fault before result.1
  ends : result.2 ≠ .goesOn
  faults : added.filterMap Record.fault? = [fault]

/-- The record starts with an answer of the front-end.  If it holds keys, one
fault has been counted and told. -/
def DecidedByAnswer (fault : Fault) (before after : Session)
    (added : List Record) : Prop :=
  ∃ answer later, added = .asked answer :: later ∧
    ∀ keys, answer = .ok (some keys) →
      FaultedOnce fault before after ∧
        later.filterMap Record.fault? = [fault]

variable {m : Type → Type} [Monad m] [LawfulMonad m] {devices : Devices m}

private theorem follows_finishFrame_faultless (start : Float) (session : Session) :
    Follows (session.finishFrame devices.recording start)
      (session.finishFrame devices start)
      fun added result =>
        added.filterMap Record.fault? = [] ∧
          (result.1 = session ∨
            ∃ elapsed, result.1 = session.counted elapsed) := by
  unfold finishFrame
  refine (Follows.noting _ _).bind ?_
  intro _ answer isAdded
  subst isAdded
  cases answer with
  | error failure => exact .of_pure ⟨rfl, .inl rfl⟩
  | ok _ =>
      refine (Follows.lift _).bind ?_
      intro _ time isAdded
      subst isAdded
      refine (Follows.noting _ _).bind ?_
      intro _ reported isAdded
      subst isAdded
      exact .of_pure ⟨rfl, .inr ⟨time - start, rfl⟩⟩

private theorem follows_report_faultless (result : Result) :
    Follows (result.report devices.recording.notify)
      (result.report devices.notify)
      fun added reported =>
        reported.session = result.session ∧
          added.filterMap Record.fault? = [] := by
  unfold Result.report
  cases result.ending with
  | failed failure => exact .of_pure ⟨rfl, rfl⟩
  | complete | stopped | halted | unfinished =>
      refine (Follows.noting _ _).bind ?_
      intro _ answer isAdded
      subst isAdded
      cases answer <;> exact .of_pure ⟨rfl, rfl⟩

section

variable {fault : Fault} {session : Session}
  (stuck : session.machine.StuckAt fault)

include stuck

private theorem follows_runCycles_of_stuckAt
    (keys : KeySet) {count : Nat} (anyCycle : 0 < count) :
    Follows
      (runCycles devices.recording.notify true keys count session)
      (runCycles devices.notify true keys count session)
      (OverAfter fault session) := by
  obtain ⟨fewer, rfl⟩ := Nat.exists_eq_add_of_lt anyCycle
  unfold runCycles
  rw [stuck keys]
  refine (Follows.noting _ _).bind ?_
  intro _ answer isAdded
  subst isAdded
  cases answer with
  | error failure =>
      exact .of_pure ⟨⟨rfl, rfl, rfl, rfl, rfl⟩, by simp, rfl⟩
  | ok _ => exact .of_pure ⟨⟨rfl, rfl, rfl, rfl, rfl⟩, by simp, rfl⟩

variable {config : Config} (halting : config.haltOnFault = true)
  (anyCycle : 1 ≤ config.instructionsPerFrame)

include halting anyCycle

private theorem follows_runFrame_of_stuckAt (start : Float) (keys : KeySet) :
    Follows (session.runFrame devices.recording config start keys)
      (session.runFrame devices config start keys)
      (OverAfter fault session.countDown) := by
  have stepped :
      Follows (session.stepFrame devices.recording.notify config keys)
        (session.stepFrame devices.notify config keys)
        (OverAfter fault session.countDown) := by
    unfold stepFrame
    rw [halting]
    exact follows_runCycles_of_stuckAt stuck.countDown keys (by omega)
  unfold runFrame
  refine stepped.bind ?_
  intro added result condition
  obtain ⟨stepped, course⟩ := result
  obtain ⟨once, ends, faults⟩ := condition
  cases course with
  | goesOn => exact absurd rfl ends
  | failed failure =>
      refine .of_pure ⟨once, by simp, ?_⟩
      rwa [List.append_nil]
  | halted =>
      refine (follows_finishFrame_faultless start stepped).bind ?_
      intro later result condition
      obtain ⟨finished, report⟩ := result
      obtain ⟨faultless, same⟩ := condition
      have onceFinished :
          FaultedOnce fault session.countDown finished := by
        rcases same with rfl | ⟨elapsed, rfl⟩
        · exact once
        · exact once.passing _ elapsed
      have allFaults :
          (added ++ (later ++ [])).filterMap Record.fault? = [fault] := by
        rw [List.append_nil, List.filterMap_append, faults, faultless]
        rfl
      cases report <;> exact .of_pure ⟨onceFinished, by simp, allFaults⟩

private theorem follows_runFrames_of_stuckAt
    (duration start : Float) {patience : Nat} (patient : 0 < patience)
    {supply : FrameSupply} (unused : supply.finished = false)
    (more : HasFrame supply.limit supply.given) (lastEnd : Float) :
    Follows
      (runFrames devices.recording config duration start patience supply
        lastEnd session)
      (runFrames devices config duration start patience supply lastEnd session)
      fun added result =>
        DecidedByAnswer fault session.countDown result.1 added := by
  obtain ⟨fewer, rfl⟩ := Nat.exists_eq_add_of_lt patient
  unfold runFrames
  rw [next_of_hasFrame unused more]
  refine (Follows.noting _ _).bind ?_
  intro _ answer isAdded
  subst isAdded
  rcases answer with failure | _ | keys
  · exact .of_pure ⟨.error failure, [], rfl, by simp⟩
  · exact .of_pure ⟨.ok none, [], rfl, by simp⟩
  refine (follows_runFrame_of_stuckAt stuck halting anyCycle start keys).bind ?_
  intro added result condition
  obtain ⟨played, course⟩ := result
  obtain ⟨once, ends, faults⟩ := condition
  have isOver :
      DecidedByAnswer fault session.countDown played
        ([.asked (.ok (some keys))] ++ (added ++ [])) := by
    refine ⟨_, added ++ [], rfl, ?_⟩
    intro _ _
    rw [List.append_nil]
    exact ⟨once, faults⟩
  cases course with
  | goesOn => exact absurd rfl ends
  | failed failure => exact .of_pure isOver
  | halted => exact .of_pure isOver

private theorem follows_runAndRelease_of_stuckAt
    (duration start : Float) {patience : Nat} (patient : 0 < patience)
    {supply : FrameSupply} (unused : supply.finished = false)
    (more : HasFrame supply.limit supply.given) :
    Follows
      (session.runAndRelease devices.recording config duration start patience
        supply)
      (session.runAndRelease devices config duration start patience supply)
      fun added result =>
        DecidedByAnswer fault session.countDown result.session added := by
  unfold runAndRelease
  refine (follows_runFrames_of_stuckAt stuck halting anyCycle duration start
    patient unused more start).bind ?_
  intro _ result condition
  obtain ⟨answer, later, rfl, decided⟩ := condition
  refine (Follows.noting _ _).bind ?_
  intro _ _ isAdded
  subst isAdded
  refine (Follows.lift _).bind ?_
  intro _ time isAdded
  subst isAdded
  refine .of_pure ⟨answer, later ++ [.released], rfl, ?_⟩
  intro keys isKeys
  obtain ⟨once, faults⟩ := decided keys isKeys
  refine ⟨once.passing _ (time - start), ?_⟩
  rw [List.filterMap_append, faults]
  rfl

private theorem follows_run_of_stuckAt
    (devices : Devices m) {limit : Option Int} (more : HasFrame limit 0)
    (progress : Bool) {patience : Nat} (patient : limit = none → 0 < patience) :
    Follows (session.run devices.recording config limit progress patience)
      (session.run devices config limit progress patience)
      fun added result =>
        (∃ failure, result.ending = .failed failure ∧
          added.findSome? Record.answer? = none) ∨
        ∃ answer, added.findSome? Record.answer? = some answer ∧
          ∀ keys, answer = .ok (some keys) →
            FaultedOnce fault session.countDown result.session ∧
              added.filterMap Record.fault? = [fault] := by
  obtain ⟨sameLimit, noneGiven, unused⟩ := limit_supplyFor limit progress
  have anyPatience : 0 < patienceFor limit patience := by
    cases limit with
    | none => exact patient rfl
    | some most => exact Nat.succ_pos _
  unfold run
  cases frameDuration config.fps with
  | error failure => exact .of_pure (.inl ⟨failure, rfl, rfl⟩)
  | ok duration =>
      refine (Follows.noting _ _).bind ?_
      intro _ answer isAdded
      subst isAdded
      cases answer with
      | error failure => exact .of_pure (.inl ⟨failure, rfl, rfl⟩)
      | ok _ =>
          refine (Follows.lift _).bind ?_
          intro _ start isAdded
          subst isAdded
          refine (Follows.noting _ _).bind ?_
          intro _ answer isAdded
          subst isAdded
          cases answer with
          | error failure => exact .of_pure (.inl ⟨failure, rfl, rfl⟩)
          | ok _ =>
              refine (follows_runAndRelease_of_stuckAt stuck halting anyCycle
                duration start anyPatience unused
                (by rwa [sameLimit, noneGiven])).bind ?_
              intro _ result condition
              obtain ⟨answer, later, rfl, decided⟩ := condition
              refine (follows_report_faultless result).weaken ?_
              intro last reported condition
              obtain ⟨sameSession, faultless⟩ := condition
              refine .inr ⟨answer, rfl, ?_⟩
              intro keys isKeys
              obtain ⟨once, faults⟩ := decided keys isKeys
              refine ⟨sameSession ▸ once, ?_⟩
              simp [List.filterMap_cons, Record.fault?, faults, faultless]

end

/-- Two machines that agree on the memory, the counter, the index, the height
of the stack and its limit raise the same faults.  So a session that a fault
has halted comes to this fault at once when it is run again: no instruction is
executed, the fault is the only one that is counted and told, and the machine
is as it was but for one step of its timers. -/
theorem faults_are_stable :
    (∀ (first second : Machine) (keys otherKeys : KeySet) (fault : Fault),
      first.memory = second.memory → first.counter = second.counter →
      first.index = second.index →
      first.stack.length = second.stack.length →
      first.stackLimit = second.stackLimit →
      ((∃ after, first.cycle keys = .fault fault after) ↔
        ∃ after, second.cycle otherKeys = .fault fault after)) ∧
    ∀ {σ : Type} (devices : Devices (StateM σ)) (config : Config)
      (limit : Option Int) (progress : Bool) (patience : Nat)
      (session : Session) (world after : σ) (result : Result),
      (session.run devices config limit progress patience).run world =
        (result, after) →
      result.ending = .halted →
      (config.haltOnFault = true ∧ 1 ≤ config.instructionsPerFrame) ∧
      ∃ fault, result.session.stats.lastFault = some fault ∧
        ∀ {τ : Type} (others : Devices (StateM τ)) (again : Config)
          (limit : Option Int) (progress : Bool) (patience : Nat)
          (stats : Stats) (world after : τ) (last : Result)
          (records : List Record),
          again.haltOnFault = true → 1 ≤ again.instructionsPerFrame →
          HasFrame limit 0 → (limit = none → 0 < patience) →
          ((({ result.session with stats := stats } : Session).run
              others.recording again limit progress patience).run []).run
            world = ((last, records), after) →
          ((∀ failure, last.ending ≠ .failed failure) →
            ∃ answer, records.findSome? Record.answer? = some answer) ∧
          ∀ keys,
            records.findSome? Record.answer? = some (.ok (some keys)) →
            FaultedOnce fault
                { machine := result.session.machine.countDown, stats := stats }
                last.session ∧
              records.filterMap Record.fault? = [fault] := by
  refine ⟨?_, ?_⟩
  · intro first second keys otherKeys fault sameMemory sameCounter sameIndex
      sameHeight sameLimit
    constructor
    · intro faulted
      exact Machine.exists_fault_congr sameMemory sameCounter sameIndex
        sameHeight sameLimit faulted otherKeys
    · intro faulted
      exact Machine.exists_fault_congr sameMemory.symm sameCounter.symm
        sameIndex.symm sameHeight.symm sameLimit.symm faulted keys
  · intro σ devices config limit progress patience session world after result
      ran halted
    obtain ⟨halting, anyCycle, fault, latest, stuck⟩ :=
      stuckAt_of_run ran halted
    refine ⟨⟨halting, anyCycle⟩, fault, latest, ?_⟩
    intro τ others again limit progress patience stats world after last records
      halting anyCycle more patient ranAgain
    have stuckAgain :
        ({ result.session with stats := stats } : Session).machine.StuckAt
          fault := stuck
    obtain ⟨_, course⟩ :=
      (follows_run_of_stuckAt stuckAgain halting anyCycle others more progress
        patient).of_run ranAgain
    rcases course with ⟨failure, failed, unread⟩ | ⟨answer, read, decided⟩
    · refine ⟨fun noFailure => absurd failed (noFailure failure), ?_⟩
      intro keys read
      cases unread.symm.trans read
    · refine ⟨fun _ => ⟨answer, read⟩, ?_⟩
      intro keys readKeys
      have isKeys : answer = .ok (some keys) :=
        Option.some.inj (read.symm.trans readKeys)
      exact decided keys isKeys

/-- A run with two cycles in a frame that the stray return halts. -/
def haltedRun : Result × Unit :=
  (run idle { fps := 0, instructionsPerFrame := 2 } (some 5) false 0
    { machine := strayReturn }).run ()

def resumedRun : (Result × List Record) × Unit :=
  ((run idle.recording { fps := 0, instructionsPerFrame := 9 } none true 3
    { haltedRun.1.session with stats := {} }).run []).run ()

theorem faults_are_stable_strayReturn :
    ∃ fault, haltedRun.1.session.stats.lastFault = some fault ∧
      FaultedOnce fault
        { machine := haltedRun.1.session.machine.countDown, stats := {} }
        resumedRun.1.1.session ∧
      resumedRun.1.2.filterMap Record.fault? = [fault] := by
  have halted : haltedRun.1.ending = .halted := by decide +kernel
  have read :
      resumedRun.1.2.findSome? Record.answer? = some (.ok (some ∅)) := by
    decide +kernel
  obtain ⟨_, fault, latest, stable⟩ :=
    faults_are_stable.2 idle { fps := 0, instructionsPerFrame := 2 } (some 5)
      false 0 { machine := strayReturn } () haltedRun.2 haltedRun.1
      (Prod.eta haltedRun).symm halted
  obtain ⟨_, decided⟩ :=
    stable idle { fps := 0, instructionsPerFrame := 9 } none true 3 {} ()
      resumedRun.2 resumedRun.1.1 resumedRun.1.2 rfl (by decide) nofun
      (by decide) (recorded_eta resumedRun)
  exact ⟨fault, latest, decided ∅ read⟩

end Session

end Chip8
