import Mathlib.Algebra.Ring.Nat
import Chip8.Proofs.PlayedFrames

/-!
# The accounts of a run

A session counts frames, instructions and faults in several places, draws and
reports in others, and has three ways to come to its end.  Here its counters,
drawings and reports are compared with the outcomes of the frames that were
played with the keys that it read.
-/

namespace Chip8.Session

/-- What an observer can tell apart without looking at the metrics, apart from
the number of frames at the end. -/
inductive Signal where
  | started (settings : List (String × Value))
  | fault (frames : Nat) (fault : Fault)
  | frame (number : Nat)
  | ended (frames : Option Value)

def Signal.isFault : Signal → Bool
  | .fault _ _ => true
  | _ => false

def Event.signal : Event → Signal
  | .started settings => .started settings
  | .fault frames raised => .fault frames raised
  | .frame number _ => .frame number
  | .ended metrics => .ended (metrics.lookup "frames")

def Record.signal? : Record → Option Signal
  | .told event _ => some event.signal
  | _ => none

def signalsSeen (records : List Record) : List Signal :=
  records.filterMap Record.signal?

/-- What observers are told about frames, which are numbered from `number`
on. -/
def frameSignals (number : Nat) (frames : List FrameOutcome) : List Signal :=
  (frames.zipIdx number).flatMap fun frame =>
    frame.1.faults.map (.fault frame.2) ++ [.frame (frame.2 + 1)]

@[simp]
theorem signalsSeen_frameRecords
    (keys : KeySet) (session : Session) (outcome : FrameOutcome)
    (elapsed : Float) :
    signalsSeen (frameRecords keys session outcome elapsed) =
      outcome.faults.map (.fault session.stats.frames) ++
        [.frame (session.stats.frames + 1)] := by
  simp [signalsSeen, frameRecords, openRecords, faultRecords, closingRecords,
    List.filterMap_cons, List.filterMap_append, List.filterMap_map,
    Function.comp_def, Record.signal?, Event.signal, counted, after,
    Stats.after]

/-- Observers are told of the start, of what happens in between and of the end,
which gives the number of frames. -/
theorem signalsSeen_framed
    (config : Config) (between : List Record) {result : Result}
    (noFailure : ∀ failure, result.ending ≠ .failed failure) :
    signalsSeen
        (openingRecords config ++ between ++ .released :: result.farewell) =
      .started config.entries :: signalsSeen between ++
        [.ended (some (.int result.session.stats.frames))] := by
  have counted :
      (result.session.stats.finalMetrics
          result.session.machine.display).lookup "frames" =
        some (.int result.session.stats.frames) :=
    rfl
  cases ending : result.ending with
  | failed failure => exact absurd ending (noFailure failure)
  | complete | stopped | halted | unfinished =>
      simp [signalsSeen, openingRecords, Result.farewell, ending,
        List.filterMap_cons, Record.signal?, Event.signal, counted]

variable {config : Config} {limit : Option Int} {given : Nat}
  {session final : Session} {records : List Record} {ending : Ending}

/-! ## The counters -/

/-- Unless a device fails, the frames counted are the frames that were run. -/
theorem Played.frames
    (played : Played config limit given session records final ending)
    (noFailure : ∀ failure, ending ≠ .failed failure) :
    final.stats.frames =
      session.stats.frames +
        (framesSeen config records session.machine).length := by
  induction played with
  | complete _ => rfl
  | stopped _ => rfl
  | halted _ halts =>
      rw [framesSeen_halted halts]
      rfl
  | failed _ _ => exact absurd rfl (noFailure _)
  | next _ goesOn _ inductionHypothesis =>
      rw [framesSeen_next _ goesOn, inductionHypothesis noFailure]
      simp only [counted, after, Stats.after, List.length_cons]
      omega

/-- The instructions counted are the complete cycles of all frames. -/
theorem Played.instructions
    (played : Played config limit given session records final ending) :
    final.stats.instructions =
      session.stats.instructions +
        ((framesSeen config records session.machine).map
          FrameOutcome.instructions).sum := by
  induction played with
  | complete _ => rfl
  | stopped _ => rfl
  | halted _ halts =>
      rw [framesSeen_halted halts]
      rfl
  | failed _ fails =>
      rw [framesSeen_failed fails]
      rfl
  | next _ goesOn _ inductionHypothesis =>
      rw [framesSeen_next _ goesOn, inductionHypothesis]
      simp only [counted, after, Stats.after, List.map_cons, List.sum_cons]
      omega

/-- The faults counted are the faults of all frames. -/
theorem Played.faultCount
    (played : Played config limit given session records final ending) :
    final.stats.faultCount =
      session.stats.faultCount +
        ((framesSeen config records session.machine).flatMap
          FrameOutcome.faults).length := by
  induction played with
  | complete _ => rfl
  | stopped _ => rfl
  | halted _ halts =>
      rw [framesSeen_halted halts]
      simp [counted, after, Stats.after]
  | failed _ fails =>
      rw [framesSeen_failed fails]
      simp [after, Stats.after]
  | next _ goesOn _ inductionHypothesis =>
      rw [framesSeen_next _ goesOn, inductionHypothesis]
      simp only [counted, after, Stats.after, List.flatMap_cons,
        List.length_append]
      omega

/-- The first fault is kept from then on. -/
theorem Played.firstFault
    (played : Played config limit given session records final ending) :
    final.stats.firstFault =
      session.stats.firstFault.or
        ((framesSeen config records session.machine).flatMap
          FrameOutcome.faults).head? := by
  induction played with
  | complete _ => exact Option.or_none.symm
  | stopped _ => exact Option.or_none.symm
  | halted _ halts =>
      rw [framesSeen_halted halts]
      simp [counted, after, Stats.after]
  | failed _ fails =>
      rw [framesSeen_failed fails]
      simp [after, Stats.after]
  | next _ goesOn _ inductionHypothesis =>
      rw [framesSeen_next _ goesOn, inductionHypothesis]
      simp only [counted, after, Stats.after, List.flatMap_cons,
        List.head?_append, Option.or_assoc]

/-- The last fault is the one met most recently. -/
theorem Played.lastFault
    (played : Played config limit given session records final ending) :
    final.stats.lastFault =
      ((framesSeen config records session.machine).flatMap
        FrameOutcome.faults).getLast?.or session.stats.lastFault := by
  induction played with
  | complete _ => rfl
  | stopped _ => rfl
  | halted _ halts =>
      rw [framesSeen_halted halts]
      simp [counted, after, Stats.after]
  | failed _ fails =>
      rw [framesSeen_failed fails]
      simp [after, Stats.after]
  | next _ goesOn _ inductionHypothesis =>
      rw [framesSeen_next _ goesOn, inductionHypothesis]
      simp only [counted, after, Stats.after, List.flatMap_cons,
        List.getLast?_append, Option.or_assoc]

/-- Observers see the faults of each frame and then the frame, frame by frame.
-/
theorem Played.signals
    (played : Played config limit given session records final ending)
    (noFailure : ∀ failure, ending ≠ .failed failure) :
    signalsSeen records =
      frameSignals session.stats.frames
        (framesSeen config records session.machine) := by
  induction played with
  | complete _ => rfl
  | stopped _ => rfl
  | halted _ halts =>
      rw [framesSeen_halted halts, signalsSeen_frameRecords]
      simp [frameSignals]
  | failed _ _ => exact absurd rfl (noFailure _)
  | next _ goesOn _ inductionHypothesis =>
      rw [framesSeen_next _ goesOn, signalsSeen, List.filterMap_append,
        ← signalsSeen, signalsSeen_frameRecords, ← signalsSeen,
        inductionHypothesis noFailure]
      simp [frameSignals, counted, after, Stats.after]

/-! ## Sums over frames -/

/-- In frames that go on, every cycle is an instruction or a fault. -/
theorem sum_of_goesOn
    {haltOnFault : Bool} {cycles : Nat} {frames : List FrameOutcome}
    (accounted : ∀ outcome ∈ frames, outcome.Accounted haltOnFault cycles)
    (allGo : ∀ outcome ∈ frames, outcome.course = .goesOn) :
    (frames.map FrameOutcome.instructions).sum +
      (frames.flatMap FrameOutcome.faults).length =
        frames.length * cycles := by
  induction frames with
  | nil => simp
  | cons first rest inductionHypothesis =>
      have firstSum := (accounted first List.mem_cons_self).complete
        (allGo first List.mem_cons_self)
      have restSum := inductionHypothesis
        (fun outcome belongs =>
          accounted outcome (List.mem_cons_of_mem _ belongs))
        (fun outcome belongs => allGo outcome (List.mem_cons_of_mem _ belongs))
      simp only [List.map_cons, List.sum_cons, List.flatMap_cons,
        List.length_append, List.length_cons, Nat.succ_mul]
      omega

theorem faults_of_goesOn
    {cycles : Nat} {frames : List FrameOutcome}
    (accounted : ∀ outcome ∈ frames, outcome.Accounted true cycles)
    (allGo : ∀ outcome ∈ frames, outcome.course = .goesOn) :
    frames.flatMap FrameOutcome.faults = [] := by
  rw [List.flatMap_eq_nil_iff]
  intro outcome belongs
  exact (accounted outcome belongs).unharmed (allGo outcome belongs) rfl

theorem accounted_framesSeen
    (config : Config) (records : List Record) (machine : Machine) :
    ∀ outcome ∈ framesSeen config records machine,
      outcome.Accounted config.haltOnFault
        config.instructionsPerFrame.toNat := by
  intro outcome belongs
  obtain ⟨held, before, rfl⟩ := exists_of_mem_outcomes belongs
  exact accounted_playCycles _ _ _ _

theorem countP_frameSignals (number : Nat) (frames : List FrameOutcome) :
    (frameSignals number frames).countP Signal.isFault =
      (frames.flatMap FrameOutcome.faults).length := by
  induction frames generalizing number with
  | nil => rfl
  | cons first rest inductionHypothesis =>
      have restCount := inductionHypothesis (number + 1)
      simp only [frameSignals] at restCount
      have firstCount :
          (first.faults.map (Signal.fault number)).countP Signal.isFault =
            first.faults.length := by
        simp [List.countP_map, Function.comp_def, Signal.isFault]
      simp only [frameSignals, List.zipIdx_cons, List.flatMap_cons,
        List.countP_append, restCount, firstCount, List.length_append]
      rfl

/-! ## The balance of a new session -/

section

variable {machine : Machine}
  (played : Played config limit 0 { machine := machine } records final ending)
  (noFailure : ∀ failure, ending ≠ .failed failure)

include played noFailure

/-- Without a halt the cycles of all frames are accounted for, and settings that
halt on faults leave no fault. -/
theorem Played.balance_of_going (going : final.stats.halted = false) :
    final.stats.instructions + final.stats.faultCount =
        final.stats.frames * config.instructionsPerFrame.toNat ∧
      (config.haltOnFault = true → final.stats.faultCount = 0) := by
  have accounted := accounted_framesSeen config records machine
  have complete :
      endingAfter (framesSeen config records machine) = .complete := by
    rw [played.halted_eq] at going
    rw [played.endingAfter_framesSeen]
    rcases played.ending_cases with rfl | rfl | rfl | ⟨failure, rfl⟩
    · rfl
    · rfl
    · simp at going
    · exact absurd rfl (noFailure failure)
  have allGo := goesOn_of_complete complete
  rw [played.instructions, played.faultCount, played.frames noFailure]
  simp only [Nat.zero_add]
  refine ⟨sum_of_goesOn accounted allGo, fun halts => ?_⟩
  rw [halts] at accounted
  rw [faults_of_goesOn accounted allGo]
  rfl

/-- A halt is due to one fault, in the last frame, which it cuts short. -/
theorem Played.balance_of_halted (halted : final.stats.halted = true) :
    config.haltOnFault = true ∧ final.stats.faultCount = 1 ∧
      (final.stats.frames - 1) * config.instructionsPerFrame.toNat ≤
        final.stats.instructions ∧
      final.stats.instructions <
        final.stats.frames * config.instructionsPerFrame.toNat := by
  have accounted := accounted_framesSeen config records machine
  have isHalted : ending = .halted := by
    simpa [played.halted_eq] using halted
  have endsHalted :
      endingAfter (framesSeen config records machine) = .halted := by
    rw [played.endingAfter_framesSeen, isHalted]
    rfl
  obtain ⟨earlier, last, shape, earlierGo, lastHalts⟩ :=
    outcomes_of_halted endsHalted
  rw [← framesSeen] at shape
  rw [played.instructions, played.faultCount, played.frames noFailure]
  simp only [Nat.zero_add]
  rw [shape] at accounted ⊢
  obtain ⟨halts, ⟨fault, single⟩, fewer⟩ :=
    (accounted last (by simp)).broken lastHalts
  have earlierAccounted : ∀ outcome ∈ earlier,
      outcome.Accounted true config.instructionsPerFrame.toNat :=
    fun outcome belongs =>
      halts ▸ accounted outcome (List.mem_append_left _ belongs)
  have earlierSum := sum_of_goesOn earlierAccounted earlierGo
  have earlierFaults := faults_of_goesOn earlierAccounted earlierGo
  rw [earlierFaults, List.length_nil] at earlierSum
  simp only [List.map_append, List.sum_append, List.map_cons, List.map_nil,
    List.sum_cons, List.sum_nil, List.flatMap_append, earlierFaults,
    List.flatMap_cons, List.flatMap_nil, single, List.length_append,
    List.length_singleton, Nat.add_sub_cancel, Nat.succ_mul]
  refine ⟨halts, rfl, ?_, ?_⟩ <;> omega

/-- A session is halted exactly if its settings ask for it and there was a
fault. -/
theorem Played.halted_iff :
    final.stats.halted = true ↔
      config.haltOnFault = true ∧ 1 ≤ final.stats.faultCount := by
  constructor
  · intro halted
    obtain ⟨halts, single, _⟩ := played.balance_of_halted noFailure halted
    exact ⟨halts, by omega⟩
  · rintro ⟨halts, atLeastOne⟩
    cases going : final.stats.halted with
    | true => rfl
    | false =>
        have noFault := (played.balance_of_going noFailure going).2 halts
        omega

end

/-! ## The whole run -/

/-- The counters of a new session agree with the frames that it played, each
frame is drawn at its end, and the observers are told of every fault and every
frame in order, between the start and the end. -/
theorem run_balances
    {σ : Type} (devices : Devices (StateM σ)) (config : Config)
    (limit : Option Int) (progress : Bool) (patience : Nat)
    (machine : Machine) {world after : σ} {result : Result}
    {records : List Record}
    (ran :
      ((run devices.recording config limit progress patience
          { machine := machine }).run []).run world =
        ((result, records), after))
    (noFailure : ∀ failure, result.ending ≠ .failed failure)
    (finished : limit = none → result.ending ≠ .unfinished) :
    let stats := result.session.stats
    let cycles := config.instructionsPerFrame.toNat
    let frames := outcomes config (records.filterMap Record.keys?) machine
    let faults := frames.flatMap FrameOutcome.faults
    -- the record is that of the run on the devices themselves
    (run devices config limit progress patience { machine := machine }).run
        world = (result, after) ∧
    stats.frames = frames.length ∧
    (∀ most, limit = some most → 0 ≤ most →
      stats.frames ≤ most ∧
        (stats.halted = false → .asked (.ok none) ∉ records →
          stats.frames = most)) ∧
    (stats.halted = false →
      stats.instructions + stats.faultCount = stats.frames * cycles) ∧
    (stats.halted = true ↔
      config.haltOnFault = true ∧ 1 ≤ stats.faultCount) ∧
    (stats.halted = true →
      stats.faultCount = 1 ∧ (stats.frames - 1) * cycles ≤ stats.instructions ∧
        stats.instructions < stats.frames * cycles) ∧
    stats.faultCount = faults.length ∧
    (stats.firstFault = faults.head? ∧ stats.lastFault = faults.getLast?) ∧
    (stats.firstFault = none ↔ stats.faultCount = 0) ∧
    (stats.lastFault = none ↔ stats.faultCount = 0) ∧
    records.filterMap Record.display? =
      frames.map (fun frame => frame.machine.display) ∧
    records.filterMap Record.signal? =
      .started config.entries ::
        (frames.zipIdx.flatMap fun frame =>
          frame.1.faults.map (.fault frame.2) ++ [.frame (frame.2 + 1)]) ++
        [.ended (some (.int stats.frames))] ∧
    (records.filterMap Record.signal?).countP Signal.isFault =
      stats.faultCount := by
  obtain ⟨sameRun, between, final, elapsed, played, isSession, isRecords⟩ :=
    played_of_run devices config limit progress patience
      { machine := machine } ran noFailure finished
  obtain ⟨session, bar, ending⟩ := result
  simp only at isSession
  subst isSession
  subst isRecords
  intro stats cycles frames faults
  have isFrames : frames = framesSeen config between machine :=
    congrArg (outcomes config · machine) (keys_framed config between _)
  have count : final.stats.frames = frames.length := by
    simpa [isFrames] using played.frames noFailure
  have faultCount : final.stats.faultCount = faults.length := by
    simpa [faults, isFrames] using played.faultCount
  have firstFault : final.stats.firstFault = faults.head? := by
    simpa [faults, isFrames] using played.firstFault
  have lastFault : final.stats.lastFault = faults.getLast? := by
    simpa [faults, isFrames] using played.lastFault
  refine ⟨sameRun, count, ?_,
    fun going => (played.balance_of_going noFailure going).1,
    played.halted_iff noFailure,
    fun halted => (played.balance_of_halted noFailure halted).2,
    faultCount, ⟨firstFault, lastFault⟩, ?_, ?_, ?_, ?_, ?_⟩
  · rintro most rfl nonnegative
    have bound := played.length_le nonnegative
    simp only [← isFrames, ← count, Int.natCast_zero, Int.zero_add] at bound
    refine ⟨bound, fun going unasked => ?_⟩
    have complete : ending = .complete := by
      rw [asked_none_mem_framed] at unasked
      have notHalted : final.stats.halted = false := going
      rcases played.ending_cases with done | rfl | rfl | ⟨failure, rfl⟩
      · exact done
      · exact absurd played.asked_of_stopped unasked
      · simp [played.halted_eq] at notHalted
      · exact absurd rfl (noFailure failure)
    subst complete
    have reached := played.le_length
    simp only [← isFrames, ← count, Int.natCast_zero, Int.zero_add] at reached
    exact Int.le_antisymm bound reached
  · change final.stats.firstFault = none ↔ final.stats.faultCount = 0
    rw [firstFault, faultCount, List.head?_eq_none_iff,
      List.length_eq_zero_iff]
  · change final.stats.lastFault = none ↔ final.stats.faultCount = 0
    rw [lastFault, faultCount, List.getLast?_eq_none_iff,
      List.length_eq_zero_iff]
  · rw [← displaysSeen, displaysSeen_framed, played.displays noFailure,
      isFrames]
  · rw [← signalsSeen, signalsSeen_framed _ _ noFailure,
      played.signals noFailure, isFrames]
    rfl
  · change _ = final.stats.faultCount
    rw [← signalsSeen, signalsSeen_framed _ _ noFailure,
      played.signals noFailure, List.cons_append, List.countP_cons,
      List.countP_append, countP_frameSignals, faultCount]
    simp [Signal.isFault, faults, isFrames]

/-- A recorded run is its result, its records and what it leaves behind. -/
theorem recorded_eta
    {α β γ : Type} (recorded : (α × β) × γ) :
    recorded = ((recorded.1.1, recorded.1.2), recorded.2) :=
  rfl

/-- Devices that never fail, at which no key is held. -/
def idle : Devices (StateM Unit) where
  frontend :=
    { setup := pure (.ok ())
      readKeys := pure (.ok (some ∅))
      draw := fun _ => pure (.ok ())
      cleanup := pure () }
  now := pure 0
  sleep _ := pure ()
  notify _ := pure (.ok ())

/-- A machine that returns without having been called, after three words that
are ignored. -/
def strayReturn : Machine :=
  { Machine.initial (.replay ⟨[7], 0⟩) none with
    memory := (Bytes.zeros memorySize).overwrite 6 [0x00, 0xEE]
    counter := 0 }

def strayReturnRun : (Result × List Record) × Unit :=
  ((run idle.recording { fps := 0, instructionsPerFrame := 2 } (some 5) false 0
    { machine := strayReturn }).run []).run ()

theorem run_balances_strayReturn :
    let stats := strayReturnRun.1.1.session.stats
    stats.halted = true ∧ stats.faultCount = 1 ∧
      (stats.frames - 1) * 2 ≤ stats.instructions ∧
      stats.instructions < stats.frames * 2 := by
  have ended : strayReturnRun.1.1.ending = .halted := by decide +kernel
  have halted : strayReturnRun.1.1.session.stats.halted = true := by
    decide +kernel
  rcases ran : strayReturnRun with ⟨⟨result, records⟩, after⟩
  rw [ran] at ended halted
  have noFailure : ∀ failure, result.ending ≠ .failed failure := by
    intro failure failed
    cases ended.symm.trans failed
  have balance := run_balances idle { fps := 0, instructionsPerFrame := 2 }
    (some 5) false 0 strayReturn ran noFailure nofun
  exact ⟨halted, balance.2.2.2.2.2.1 halted⟩

end Chip8.Session
