import Chip8.Proofs.SteppedFrames

/-!
# A counter beyond the memory

A counter that has left the memory at its upper end does not come back while
faults are stepped over: each cycle raises the fault of a fetch outside the
memory and moves the counter on by one word, and each frame counts the timers
down.  So the frames from there on have a closed form, which gives the faults,
the counters and the machine after any number of them.
-/

namespace Chip8

/-- The faults of fetching words outside the memory one after the other. -/
def fetchFaults (start : Int) (count : Nat) : List Fault :=
  (List.range count).map fun step : Nat =>
    { cause := .fetchOutside, address := some (start + 2 * (step : Int)) }

theorem fetchFaults_add (start : Int) (first second : Nat) :
    fetchFaults start (first + second) =
      fetchFaults start first ++ fetchFaults (start + 2 * first) second := by
  simp only [fetchFaults, List.range_add, List.map_append, List.map_map]
  congr 2
  funext step
  simp only [Function.comp_apply]
  congr 2
  omega

private theorem head?_fetchFaults (start : Int) {count : Nat} (any : 1 ≤ count) :
    (fetchFaults start count).head? =
      some { cause := .fetchOutside, address := some start } := by
  obtain ⟨fewer, rfl⟩ := Nat.exists_eq_add_of_le any
  rw [fetchFaults_add, List.head?_append]
  simp [fetchFaults]

private theorem getLast?_fetchFaults (start : Int) {count : Nat} (any : 1 ≤ count) :
    (fetchFaults start count).getLast? =
      some
        { cause := .fetchOutside
          address := some (start + 2 * ((count : Int) - 1)) } := by
  obtain ⟨fewer, rfl⟩ := Nat.exists_eq_add_of_le' any
  rw [fetchFaults_add, List.getLast?_append]
  simp [fetchFaults]

namespace Machine

/-- The machine after frames in which every cycle has stepped over a fault. -/
def drifted (machine : Machine) (frames cycles : Nat) : Machine :=
  { machine with
    counter := machine.counter + 2 * ((frames * cycles : Nat) : Int)
    delayTimer := max (machine.delayTimer - frames) 0
    soundTimer := max (machine.soundTimer - frames) 0 }

private theorem drifted_drifted (machine : Machine) (first second cycles : Nat) :
    (machine.drifted first cycles).drifted second cycles =
      machine.drifted (first + second) cycles := by
  have counter :
      machine.counter + 2 * ((first * cycles : Nat) : Int) +
          2 * ((second * cycles : Nat) : Int) =
        machine.counter + 2 * (((first + second) * cycles : Nat) : Int) := by
    rw [Nat.add_mul]
    omega
  have timer (value : Int) :
      max (max (value - first) 0 - second) 0 =
        max (value - (first + second : Nat)) 0 := by
    omega
  simp only [drifted, counter, timer]

private theorem cycle_of_beyond
    {machine : Machine} (beyond : 4095 ≤ machine.counter) (keys : KeySet) :
    machine.cycle keys = .fault machine.fetchFault machine := by
  have outside : machine.canFetch = false := by
    rw [Bool.eq_false_iff, ne_eq, canFetch_iff]
    omega
  exact cycle_eq_fault_iff.mpr ⟨rfl, .inl ⟨outside, rfl⟩⟩

end Machine

namespace Session

/-! ## Cycles and frames -/

private theorem playCycles_of_beyond
    {machine : Machine} (beyond : 4095 ≤ machine.counter) (keys : KeySet)
    (count : Nat) :
    playCycles false keys count machine =
      { machine :=
          { machine with counter := machine.counter + 2 * (count : Int) }
        faults := fetchFaults machine.counter count } := by
  induction count generalizing machine with
  | zero => simp [playCycles, fetchFaults]
  | succ count inductionHypothesis =>
      have beyondNext : 4095 ≤ machine.stepOver.counter := by
        simp only [Machine.stepOver]
        omega
      have counter :
          machine.counter + 2 + 2 * (count : Int) =
            machine.counter + 2 * ((count + 1 : Nat) : Int) := by
        omega
      have faults :
          machine.fetchFault :: fetchFaults (machine.counter + 2) count =
            fetchFaults machine.counter (count + 1) := by
        rw [Nat.add_comm count, fetchFaults_add]
        simp [fetchFaults, Machine.fetchFault]
      rw [playCycles, Machine.cycle_of_beyond beyond]
      simp only [Bool.false_eq_true, if_false, inductionHypothesis beyondNext]
      simp only [Machine.stepOver, counter, faults]

/-- The outcome of the frame behind the given number of frames, from a counter
beyond the memory on. -/
def driftingFrame (machine : Machine) (cycles frames : Nat) : FrameOutcome where
  machine := machine.drifted (frames + 1) cycles
  faults :=
    fetchFaults (machine.counter + 2 * ((frames * cycles : Nat) : Int)) cycles

private theorem driftingFrame_drifted (machine : Machine) (cycles frames : Nat) :
    driftingFrame (machine.drifted 1 cycles) cycles frames =
      driftingFrame machine cycles (frames + 1) := by
  have start :
      (machine.drifted 1 cycles).counter + 2 * ((frames * cycles : Nat) : Int) =
        machine.counter + 2 * (((frames + 1) * cycles : Nat) : Int) := by
    simp only [Machine.drifted, Nat.add_mul]
    omega
  rw [driftingFrame, driftingFrame, start, Machine.drifted_drifted,
    Nat.add_comm 1]

section

variable {config : Config} {machine : Machine}
  (stepsOver : config.haltOnFault = false) (beyond : 4095 ≤ machine.counter)

include stepsOver beyond

private theorem playFrame_of_beyond (keys : KeySet) :
    playFrame config keys machine =
      driftingFrame machine config.instructionsPerFrame.toNat 0 := by
  have beyondCounted : 4095 ≤ machine.countDown.counter := beyond
  rw [playFrame, stepsOver, playCycles_of_beyond beyondCounted]
  simp [driftingFrame, Machine.drifted, Machine.countDown]

/-- Beyond the memory every cycle is a fault that is stepped over, and the
counter drifts on. -/
theorem outcomes_of_beyond (keys : List KeySet) :
    outcomes config keys machine =
      (List.range keys.length).map
        (driftingFrame machine config.instructionsPerFrame.toNat) := by
  have stays : ∀ machine : Machine, 4095 ≤ machine.counter →
      4095 ≤ (machine.drifted 1 config.instructionsPerFrame.toNat).counter := by
    intro machine beyond
    simp only [Machine.drifted]
    omega
  have allowed : ∀ held ∈ keys, True := fun _ _ => trivial
  exact outcomes_of_form
    (fun _ held beyond _ => playFrame_of_beyond stepsOver beyond held)
    (fun _ _ => rfl) stays
    (fun machine => driftingFrame_drifted machine _) beyond allowed

end

/-! ## All frames together -/

private theorem faults_driftingFrames (machine : Machine) (frames cycles : Nat) :
    ((List.range frames).map (driftingFrame machine cycles)).flatMap
        FrameOutcome.faults =
      fetchFaults machine.counter (frames * cycles) := by
  induction frames with
  | zero => simp [fetchFaults]
  | succ frames inductionHypothesis =>
      rw [List.range_succ, List.map_append, List.flatMap_append,
        inductionHypothesis, Nat.add_mul, Nat.one_mul, fetchFaults_add]
      exact congrArg _ (List.append_nil _)

private theorem lastMachine_driftingFrames
    (machine : Machine) {frames : Nat} (any : 1 ≤ frames) (cycles : Nat) :
    lastMachine ((List.range frames).map (driftingFrame machine cycles))
        machine =
      machine.drifted frames cycles := by
  obtain ⟨fewer, rfl⟩ := Nat.exists_eq_add_of_le' any
  exact lastMachine_map_range _ machine fewer

private theorem instructions_driftingFrames (machine : Machine) (frames cycles : Nat) :
    (((List.range frames).map (driftingFrame machine cycles)).map
      FrameOutcome.instructions).sum = 0 := by
  rw [List.map_map]
  simp only [Function.comp_def, driftingFrame, List.map_const',
    List.sum_replicate_nat, Nat.mul_zero]

/-- Frames have passed without an instruction, in which every cycle has tried
to fetch a word further beyond the memory. -/
structure RanAway (machine : Machine) (frames cycles : Nat)
    (session : Session) (records : List Record) : Prop where
  instructions : session.stats.instructions = 0
  faultCount : session.stats.faultCount = frames * cycles
  faults :
    records.filterMap Record.fault? =
      fetchFaults machine.counter (frames * cycles)
  kinds : ∀ fault ∈ records.filterMap Record.fault?,
    fault.kind = .memoryAccess ∧ fault.instruction = none
  firstFault : ∃ fault, session.stats.firstFault = some fault ∧
    fault ∈ records.filterMap Record.fault? ∧
      fault.address = some machine.counter
  lastFault : ∃ fault, session.stats.lastFault = some fault ∧
    fault ∈ records.filterMap Record.fault? ∧
      fault.address =
        some (machine.counter + 2 * (((frames * cycles : Nat) : Int) - 1))
  machine :
    session.machine =
      { machine with
        counter := machine.counter + 2 * ((frames * cycles : Nat) : Int)
        delayTimer := max (machine.delayTimer - frames) 0
        soundTimer := max (machine.soundTimer - frames) 0 }

/-- The totals of drifting frames say how far the counter has run. -/
theorem Totals.ranAway
    {machine : Machine} {frames cycles : Nat} {session : Session}
    {records : List Record}
    (totals :
      Totals machine ((List.range frames).map (driftingFrame machine cycles))
        session records)
    (anyFrame : 1 ≤ frames) (anyCycle : 1 ≤ cycles) :
    RanAway machine frames cycles session records := by
  have any : 1 ≤ frames * cycles := Nat.mul_pos anyFrame anyCycle
  have isInstructions := totals.instructions
  have isCount := totals.faultCount
  have isFirst := totals.firstFault
  have isLast := totals.lastFault
  have isMachine := totals.machine
  have told := totals.faults
  rw [instructions_driftingFrames] at isInstructions
  rw [faults_driftingFrames] at isCount isFirst isLast told
  rw [lastMachine_driftingFrames machine anyFrame] at isMachine
  have first := head?_fetchFaults machine.counter any
  have last := getLast?_fetchFaults machine.counter any
  refine
    { instructions := isInstructions
      faultCount := by simpa [fetchFaults] using isCount
      faults := told
      kinds := ?_
      firstFault := ⟨_, isFirst.trans first, ?_, rfl⟩
      lastFault := ⟨_, isLast.trans last, ?_, rfl⟩
      machine := isMachine }
  · intro fault belongs
    rw [told] at belongs
    obtain ⟨step, _, rfl⟩ := List.mem_map.mp belongs
    exact ⟨rfl, rfl⟩
  · rw [told]
    exact List.mem_of_head? first
  · rw [told]
    exact List.mem_of_getLast? last

/-- From a counter beyond the memory on, a new session that steps over its
faults executes nothing: every cycle of every frame raises a fault at the next
word, and only the counter and the timers of the machine change.  This holds
for frames that are stepped with any keys, and for a run up to a limit. -/
theorem counter_runs_away
    {σ : Type} (devices : Devices (StateM σ)) (config : Config)
    (machine : Machine) (stepsOver : config.haltOnFault = false)
    (anyCycle : 1 ≤ config.instructionsPerFrame)
    (beyond : 4095 ≤ machine.counter) :
    (∀ (keys : List KeySet) (world after : σ) (result : Session × Course)
        (records : List Record),
      keys ≠ [] →
      ((stepFrames devices.recording.notify config keys
          { machine := machine }).run []).run world =
        ((result, records), after) →
      (∀ record ∈ records, record.failure? = none) →
      (stepFrames devices.notify config keys { machine := machine }).run
          world = (result, after) ∧
        result.2 = .goesOn ∧
        RanAway machine keys.length config.instructionsPerFrame.toNat
          result.1 records) ∧
    ∀ (limit : Int) (progress : Bool) (patience : Nat) (duration : Float)
      (world after : σ) (result : Result) (records : List Record),
      1 ≤ limit →
      frameDuration config.fps = .ok duration →
      ((run devices.recording config (some limit) progress patience
          { machine := machine }).run []).run world =
        ((result, records), after) →
      (∀ record ∈ records, record.failure? = none) →
      .asked (.ok none) ∉ records →
      (run devices config (some limit) progress patience
          { machine := machine }).run world = (result, after) ∧
        result.ending = .complete ∧
        result.session.stats.frames = limit.toNat ∧
        RanAway machine limit.toNat config.instructionsPerFrame.toNat
          result.session records := by
  have anyCycle : 1 ≤ config.instructionsPerFrame.toNat := by omega
  have allGo : ∀ keys, ∀ outcome ∈ outcomes config keys machine,
      outcome.course = .goesOn := by
    intro keys outcome belongs
    rw [outcomes_of_beyond stepsOver beyond] at belongs
    obtain ⟨number, _, rfl⟩ := List.mem_map.mp belongs
    rfl
  refine ⟨?_, ?_⟩
  · intro keys world after result records anyKeys stepped unbroken
    obtain ⟨sameSteps, goesOn, totals⟩ :=
      totals_of_stepFrames devices config keys machine stepped unbroken
        (allGo keys)
    rw [outcomes_of_beyond stepsOver beyond] at totals
    have anyFrame : 1 ≤ keys.length := List.length_pos_iff.mpr anyKeys
    exact ⟨sameSteps, goesOn, totals.ranAway anyFrame anyCycle⟩
  · intro limit progress patience duration world after result records
      anyFrame rate ran unbroken unasked
    obtain ⟨sameRun, complete, frames, allKeys, totals⟩ :=
      totals_of_run devices config (by omega) progress patience machine rate
        ran unbroken unasked allGo
    rw [outcomes_of_beyond stepsOver beyond, allKeys] at totals
    exact ⟨sameRun, complete, frames, totals.ranAway (by omega) anyCycle⟩

/-- A machine whose counter is at the last byte of the memory. -/
def overrun : Machine :=
  { Machine.initial .absent none with
    counter := 4095
    delayTimer := 1
    soundTimer := 9 }

/-- Two frames of three cycles, the second with a key held. -/
def overrunSteps : ((Session × Course) × List Record) × Unit :=
  ((stepFrames idle.recording.notify
    { fps := 0, instructionsPerFrame := 3, haltOnFault := false }
    [∅, .singleton 5] { machine := overrun }).run []).run ()

def overrunRun : (Result × List Record) × Unit :=
  ((run idle.recording
    { fps := 0, instructionsPerFrame := 3, haltOnFault := false } (some 2)
    false 0 { machine := overrun }).run []).run ()

theorem counter_runs_away_overrun :
    RanAway overrun 2 3 overrunSteps.1.1.1 overrunSteps.1.2 ∧
      RanAway overrun 2 3 overrunRun.1.1.session overrunRun.1.2 := by
  have stepsUnbroken :
      ∀ record ∈ overrunSteps.1.2, record.failure? = none := by
    decide +kernel
  have runUnbroken : ∀ record ∈ overrunRun.1.2, record.failure? = none := by
    decide +kernel
  have unasked : .asked (.ok none) ∉ overrunRun.1.2 :=
    Record.unasked_of_answers (by decide +kernel)
  obtain ⟨steps, runs⟩ :=
    counter_runs_away idle
      { fps := 0, instructionsPerFrame := 3, haltOnFault := false } overrun rfl
      (by decide) (by decide)
  have stepped :=
    steps [∅, .singleton 5] () overrunSteps.2 overrunSteps.1.1 overrunSteps.1.2
      (by simp) (recorded_eta overrunSteps) stepsUnbroken
  have ran :=
    runs 2 false 0 0 () overrunRun.2 overrunRun.1.1 overrunRun.1.2 (by decide)
      rfl (recorded_eta overrunRun) runUnbroken unasked
  exact ⟨stepped.2.2, ran.2.2.2⟩

end Session

end Chip8
