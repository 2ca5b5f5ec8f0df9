import Chip8.Proofs.Outcomes
import Chip8.Proofs.SteppedFrames

/-!
# Waiting for a key

`FX0A` without a key moves the counter back to itself, so a machine that waits
for a key stays as it is for as long as no key is held: only its keypad is
emptied, and the frames that pass count its timers down.  The first cycle with a
key stores the least key and goes on.
-/

namespace Chip8

namespace Machine

/-- The word at the counter waits for a key. -/
structure AwaitsKey (machine : Machine) : Prop where
  inside : 0 ≤ machine.counter ∧ machine.counter ≤ 4094
  isGroup : machine.wordAtCounter.group = 0xF
  isWait : machine.wordAtCounter.nn = 0x0A

/-- The machine after frames of cycles that have waited in vain. -/
def waited (machine : Machine) (frames cycles : Nat) : Machine :=
  { machine with
    keypad := if frames * cycles = 0 then machine.keypad else ∅
    delayTimer := max (machine.delayTimer - frames) 0
    soundTimer := max (machine.soundTimer - frames) 0 }

private theorem waited_waited (machine : Machine) (first second cycles : Nat) :
    (machine.waited first cycles).waited second cycles =
      machine.waited (first + second) cycles := by
  have keypad :
      (if second * cycles = 0 then
          if first * cycles = 0 then machine.keypad else ∅
        else ∅) =
        if (first + second) * cycles = 0 then machine.keypad else ∅ := by
    rw [Nat.add_mul]
    by_cases noFirst : first * cycles = 0 <;>
      by_cases noSecond : second * cycles = 0 <;> simp [noFirst, noSecond]
  have timer (value : Int) :
      max (max (value - first) 0 - second) 0 =
        max (value - (first + second : Nat)) 0 := by
    omega
  simp only [waited, keypad, timer]

/-- No frame leaves a machine alone whose timers are not below zero. -/
theorem waited_zero
    {machine : Machine} (delay : 0 ≤ machine.delayTimer)
    (sound : 0 ≤ machine.soundTimer) (cycles : Nat) :
    machine.waited 0 cycles = machine := by
  simp [waited, delay, sound]

namespace AwaitsKey

variable {machine : Machine}

theorem instruction (waits : machine.AwaitsKey) :
    machine.instructionAtCounter = .awaitKey machine.wordAtCounter.x :=
  Instruction.ofWord_eq_awaitKey_iff.mpr ⟨waits.isGroup, waits.isWait, rfl⟩

/-- Without a key the counter comes back to where it was. -/
theorem cycle_empty (waits : machine.AwaitsKey) :
    machine.cycle ∅ = .done (machine.holding ∅) := by
  have inside := machine.canFetch_iff.mpr waits.inside
  have back : machine.counter + 2 - 2 = machine.counter :=
    Int.add_sub_cancel _ _
  refine cycle_eq_done_iff.mpr ⟨inside, ?_⟩
  rw [waits.instruction]
  refine execute_eq_done_iff.mpr ⟨?_, rfl, ?_⟩
  · exact checkRange_zero _
  · change machine.holding ∅ =
      { machine.ready ∅ with counter := machine.counter + 2 - 2 }
    rw [back]
    rfl

/-- With a key the least one is stored. -/
theorem cycle_key
    (waits : machine.AwaitsKey) {keys : KeySet} {least : Int}
    (isLeast : keys.min? = some least) (isByte : 0 ≤ least ∧ least ≤ 255) :
    machine.cycle keys =
      .done
        { machine with
          registers :=
            (machine.setRegister machine.wordAtCounter.x
              (UInt8.ofNat least.toNat)).registers
          counter := machine.counter + 2
          keypad := keys } := by
  have inside := machine.canFetch_iff.mpr waits.inside
  have readyLeast : (machine.ready keys).keypad.min? = some least := isLeast
  refine cycle_eq_done_iff.mpr ⟨inside, ?_⟩
  rw [waits.instruction]
  refine execute_eq_done_iff.mpr ⟨?_, ?_, ?_⟩
  · exact checkRange_zero _
  · rw [obstacle, readyLeast]
    exact if_pos isByte
  · simp only [carryOut, readyLeast]
    rfl

private theorem cycles_empty (waits : machine.AwaitsKey) (count ran : Nat) :
    cycles ∅ count ran machine =
      (ran + count,
        .done
          { machine with
            keypad := if count = 0 then machine.keypad else ∅ }) := by
  induction count generalizing machine ran with
  | zero => rfl
  | succ count inductionHypothesis =>
      have stillWaits : (machine.holding ∅).AwaitsKey :=
        ⟨waits.inside, waits.isGroup, waits.isWait⟩
      have rest := inductionHypothesis stillWaits (ran + 1)
      rw [Nat.add_assoc, Nat.add_comm 1] at rest
      rw [cycles, waits.cycle_empty, if_neg (Nat.succ_ne_zero count)]
      simpa only [holding, ite_self] using rest

end AwaitsKey

end Machine

namespace Session

open Machine

variable {machine : Machine}

private theorem playCycles_of_awaitsKey
    (waits : machine.AwaitsKey) (haltOnFault : Bool) (count : Nat) :
    playCycles haltOnFault ∅ count machine =
      { machine :=
          { machine with
            keypad := if count = 0 then machine.keypad else ∅ }
        instructions := count } := by
  induction count generalizing machine with
  | zero => rfl
  | succ count inductionHypothesis =>
      have stillWaits : (machine.holding ∅).AwaitsKey :=
        ⟨waits.inside, waits.isGroup, waits.isWait⟩
      have rest := inductionHypothesis stillWaits
      simp only [holding, ite_self] at rest
      rw [playCycles, waits.cycle_empty, if_neg (Nat.succ_ne_zero count)]
      simp only [holding, rest]

/-- The outcome of the frame behind the given number of frames without a
key. -/
def waitingFrame (cycles : Nat) (machine : Machine) (frames : Nat) :
    FrameOutcome where
  machine := machine.waited (frames + 1) cycles
  instructions := cycles

private theorem playFrame_of_awaitsKey (config : Config) (waits : machine.AwaitsKey) :
    playFrame config ∅ machine =
      waitingFrame config.instructionsPerFrame.toNat machine 0 := by
  have stillWaits : machine.countDown.AwaitsKey :=
    ⟨waits.inside, waits.isGroup, waits.isWait⟩
  rw [playFrame, playCycles_of_awaitsKey stillWaits]
  simp [waitingFrame, waited, Machine.countDown]

/-- Without keys every frame waits, and only the timers move. -/
theorem outcomes_of_awaitsKey
    (config : Config) (waits : machine.AwaitsKey) {keys : List KeySet}
    (unheld : ∀ held ∈ keys, held = ∅) :
    outcomes config keys machine =
      (List.range keys.length).map
        (waitingFrame config.instructionsPerFrame.toNat machine) := by
  refine outcomes_of_form ?_ (fun _ _ => rfl) ?_ ?_ waits unheld
  · rintro machine _ waits rfl
    exact playFrame_of_awaitsKey config waits
  · intro machine waits
    exact ⟨waits.inside, waits.isGroup, waits.isWait⟩
  · intro machine number
    have total : 0 + 1 + (number + 1) = number + 1 + 1 := by omega
    simp only [waitingFrame, waited_waited, total]

/-! ## All frames together -/

section

variable (config : Config) (waits : machine.AwaitsKey) {keys : List KeySet}
  (unheld : ∀ held ∈ keys, held = ∅)

include waits unheld

theorem goesOn_of_awaitsKey :
    ∀ outcome ∈ outcomes config keys machine, outcome.course = .goesOn := by
  rw [outcomes_of_awaitsKey config waits unheld]
  intro outcome belongs
  obtain ⟨number, _, rfl⟩ := List.mem_map.mp belongs
  rfl

private theorem faultless_of_awaitsKey :
    ∀ outcome ∈ outcomes config keys machine, outcome.faults = [] := by
  rw [outcomes_of_awaitsKey config waits unheld]
  intro outcome belongs
  obtain ⟨number, _, rfl⟩ := List.mem_map.mp belongs
  rfl

end

theorem lastMachine_waitingFrames
    (delay : 0 ≤ machine.delayTimer) (sound : 0 ≤ machine.soundTimer)
    (frames cycles : Nat) :
    lastMachine ((List.range frames).map (waitingFrame cycles machine))
        machine =
      machine.waited frames cycles := by
  cases frames with
  | zero => exact (waited_zero delay sound cycles).symm
  | succ fewer => exact lastMachine_map_range _ machine fewer

theorem instructions_waitingFrames (machine : Machine) (frames cycles : Nat) :
    (((List.range frames).map (waitingFrame cycles machine)).map
      FrameOutcome.instructions).sum = frames * cycles := by
  rw [List.map_map]
  simp only [Function.comp_def, waitingFrame, List.map_const',
    List.sum_replicate_nat, List.length_range]

@[simp]
theorem faults_waitingFrames (machine : Machine) (frames cycles : Nat) :
    ((List.range frames).map (waitingFrame cycles machine)).flatMap
      FrameOutcome.faults = [] := by
  simp [List.flatMap_map, waitingFrame]

private theorem stepFrames_of_awaitsKey
    {m : Type → Type} [Monad m] [LawfulMonad m]
    (notify : Event → m (Except Failure Unit)) (config : Config)
    (stats : Stats) (waits : machine.AwaitsKey)
    (delay : 0 ≤ machine.delayTimer) (sound : 0 ≤ machine.soundTimer)
    (frames : Nat) :
    stepFrames notify config (List.replicate frames ∅)
        { machine := machine, stats := stats } =
      pure
        ({ machine :=
             machine.waited frames config.instructionsPerFrame.toNat
           stats :=
             { stats with
               instructions :=
                 stats.instructions +
                   frames * config.instructionsPerFrame.toNat } },
          .goesOn) := by
  have unheld : ∀ held ∈ List.replicate frames (∅ : KeySet), held = ∅ :=
    fun _ belongs => List.eq_of_mem_replicate belongs
  have allGo := goesOn_of_awaitsKey config waits unheld
  have isFaultless := faultless_of_awaitsKey config waits unheld
  rw [stepFrames_of_faultless notify config isFaultless,
    courseAfter_of_goesOn allGo, foldl_after_of_goesOn _ allGo,
    outcomes_of_awaitsKey config waits unheld, List.length_replicate,
    lastMachine_waitingFrames delay sound, instructions_waitingFrames,
    faults_waitingFrames]
  simp [after, Stats.after]

/-- A machine that waits for a key stays as it is, up to its keypad, for any
number of cycles without a key, and the first cycle with a key stores the least
one and goes on.  Frames without a key count its timers down, count their
cycles as instructions, raise no fault and have nothing to tell; the same is
left of a run in which no key is ever held. -/
theorem key_wait_stutters
    {machine : Machine} (waits : machine.AwaitsKey) :
    (∀ count : Nat,
      let waiting : Machine :=
        { machine with keypad := if count = 0 then machine.keypad else ∅ }
      cycles ∅ count 0 machine = (count, .done waiting) ∧
      ∀ keys : KeySet, keys ≠ ∅ →
        (∀ key ∈ keys, 0 ≤ key ∧ key ≤ 255) →
        ∃ (least : Int) (value : UInt8),
          least ∈ keys ∧ (∀ key ∈ keys, least ≤ key) ∧
          (value.toNat : Int) = least ∧
          waiting.cycle keys =
            .done
              { machine with
                registers :=
                  (machine.setRegister machine.wordAtCounter.x value).registers
                counter := machine.counter + 2
                keypad := keys }) ∧
    (0 ≤ machine.delayTimer → 0 ≤ machine.soundTimer → ∀ config : Config,
      (∀ {m : Type → Type} [Monad m] [LawfulMonad m]
        (notify : Event → m (Except Failure Unit)) (stats : Stats)
        (frames : Nat),
        stepFrames notify config (List.replicate frames ∅)
            { machine := machine, stats := stats } =
          pure
            ({ machine :=
                 machine.waited frames config.instructionsPerFrame.toNat
               stats :=
                 { stats with
                   instructions :=
                     stats.instructions +
                       frames * config.instructionsPerFrame.toNat } },
              .goesOn)) ∧
      ∀ {σ : Type} (devices : Devices (StateM σ)) (limit : Int)
        (progress : Bool) (patience : Nat) (duration : Float)
        (world after : σ) (result : Result) (records : List Record),
        0 ≤ limit →
        frameDuration config.fps = .ok duration →
        ((run devices.recording config (some limit) progress patience
            { machine := machine }).run []).run world =
          ((result, records), after) →
        (∀ record ∈ records, record.failure? = none) →
        .asked (.ok none) ∉ records →
        (∀ held ∈ records.filterMap Record.keys?, held = ∅) →
        (run devices config (some limit) progress patience
            { machine := machine }).run world = (result, after) ∧
          result.ending = .complete ∧
          result.session.stats.frames = limit.toNat ∧
          result.session.machine =
            machine.waited limit.toNat config.instructionsPerFrame.toNat ∧
          result.session.stats.instructions =
            limit.toNat * config.instructionsPerFrame.toNat ∧
          result.session.stats.faultCount = 0 ∧
          records.filterMap Record.fault? = []) := by
  constructor
  · intro count waiting
    have stillWaits : waiting.AwaitsKey :=
      ⟨waits.inside, waits.isGroup, waits.isWait⟩
    refine ⟨?_, ?_⟩
    · rw [waits.cycles_empty, Nat.zero_add]
    · intro keys nonempty bytes
      obtain ⟨least, isLeast⟩ := SortedSet.exists_min?_of_ne_empty nonempty
      obtain ⟨belongs, below⟩ := SortedSet.min?_eq_some_iff.mp isLeast
      have isByte := bytes least belongs
      have value : ((UInt8.ofNat least.toNat).toNat : Int) = least := by
        rw [UInt8.toNat_ofNat']
        omega
      exact ⟨least, UInt8.ofNat least.toNat, belongs, below, value,
        stillWaits.cycle_key isLeast isByte⟩
  · intro delay sound config
    refine ⟨?_, ?_⟩
    · intro m _ _ notify stats frames
      exact stepFrames_of_awaitsKey notify config stats waits delay sound frames
    · intro σ devices limit progress patience duration world after result
        records nonnegative rate ran unbroken unasked unheld
      obtain ⟨sameRun, complete, frames, allKeys, totals⟩ :=
        totals_of_run_seen devices config nonnegative progress patience machine
          rate ran unbroken unasked (goesOn_of_awaitsKey config waits unheld)
      rw [outcomes_of_awaitsKey config waits unheld, allKeys] at totals
      have isMachine := totals.machine
      have instructions := totals.instructions
      have faultCount := totals.faultCount
      have faults := totals.faults
      rw [lastMachine_waitingFrames delay sound] at isMachine
      rw [instructions_waitingFrames] at instructions
      rw [faults_waitingFrames] at faultCount faults
      exact ⟨sameRun, complete, frames, isMachine, instructions, faultCount,
        faults⟩

/-- A machine that waits for a key at the given place. -/
def waitingAt (place : Nat) : Machine :=
  { Machine.initial .absent none with
    memory := (Bytes.zeros memorySize).overwrite place [0xF3, 0x0A]
    counter := place
    delayTimer := 1
    soundTimer := 9
    keypad := .singleton 7 }

theorem wordAtCounter_waitingAt {place : Nat} (inside : place ≤ 4094) :
    (waitingAt place).wordAtCounter = .ofBytes 0xF3 0x0A := by
  have size : memorySize = 4096 := rfl
  have high : (waitingAt place).memory.read place = 0xF3 := by
    rw [waitingAt, Bytes.read_overwrite, if_pos (by simp; omega), Nat.sub_self]
    rfl
  have low : (waitingAt place).memory.read (place + 1) = 0x0A := by
    rw [waitingAt, Bytes.read_overwrite, if_pos (by simp; omega),
      Nat.add_sub_cancel_left]
    rfl
  rw [wordAtCounter, show (waitingAt place).counter.toNat = place from rfl,
    high, low]

theorem awaitsKey_waitingAt {place : Nat} (inside : place ≤ 4094) :
    (waitingAt place).AwaitsKey := by
  have isCounter : (waitingAt place).counter = place := rfl
  have isWord := wordAtCounter_waitingAt inside
  exact
    { inside := by omega
      isGroup := by rw [isWord]; decide
      isWait := by rw [isWord]; decide }

/-- A run of two frames of three cycles, in which no key is held. -/
def waitingRun : (Result × List Record) × Unit :=
  ((run idle.recording { fps := 0, instructionsPerFrame := 3 } (some 2)
    false 0 { machine := waitingAt 0 }).run []).run ()

/-- The last word of the memory waits for one of two keys, and the first word
waits in vain through a run. -/
theorem key_wait_stutters_edges :
    (∃ value : UInt8,
      cycles ∅ 5 0 (waitingAt 4094) =
        (5, .done { waitingAt 4094 with keypad := ∅ }) ∧
      value.toNat = 4 ∧
      ({ waitingAt 4094 with keypad := ∅ } : Machine).cycle
          (.ofList [11, 4]) =
        .done
          { waitingAt 4094 with
            registers := ((waitingAt 4094).setRegister 3 value).registers
            counter := 4096
            keypad := .ofList [11, 4] }) ∧
      waitingRun.1.1.session.machine = (waitingAt 0).waited 2 3 ∧
      waitingRun.1.1.session.stats.instructions = 6 := by
  obtain ⟨stutters, pressed⟩ :=
    (key_wait_stutters (awaitsKey_waitingAt (Nat.le_refl 4094))).1 5
  obtain ⟨least, value, belongs, below, isLeast, stored⟩ :=
    pressed (.ofList [11, 4]) (by decide) (by decide)
  have isFour : least = 4 := by
    have small : least ≤ 4 := below 4 (SortedSet.mem_ofList.mpr (by simp))
    have either : least = 11 ∨ least = 4 := by
      simpa using SortedSet.mem_ofList.mp belongs
    omega
  have isValue : value.toNat = 4 := by omega
  rw [wordAtCounter_waitingAt (Nat.le_refl 4094)] at stored
  have unbroken : ∀ record ∈ waitingRun.1.2, record.failure? = none := by
    decide +kernel
  have unasked : .asked (.ok none) ∉ waitingRun.1.2 :=
    Record.unasked_of_answers (by decide +kernel)
  have unheld : ∀ held ∈ waitingRun.1.2.filterMap Record.keys?, held = ∅ := by
    decide +kernel
  obtain ⟨_, framed⟩ :=
    (key_wait_stutters (awaitsKey_waitingAt (Nat.zero_le 4094))).2 (by decide)
      (by decide) { fps := 0, instructionsPerFrame := 3 }
  obtain ⟨_, _, _, isMachine, instructions, _⟩ :=
    framed idle 2 false 0 0 () waitingRun.2 waitingRun.1.1 waitingRun.1.2
      (by decide) rfl (recorded_eta waitingRun) unbroken unasked unheld
  exact ⟨⟨value, stutters, isValue, stored⟩, isMachine, instructions⟩

end Session

end Chip8
