import Chip8.Proofs.SessionTrace

/-!
# The frames of a session

The keys on record determine the frames that a session played.  Here the
machine at the end, the drawings and the ending of a session are read off these
frames.
-/

namespace Chip8.Session

namespace Record

def keys? : Record → Option KeySet
  | .asked (.ok answer) => answer
  | _ => none

def display? : Record → Option Display
  | .drawn display _ => some display
  | _ => none

end Record

/-- The outcomes of the frames that were played with the keys on record. -/
def framesSeen (config : Config) (records : List Record) (machine : Machine) :
    List FrameOutcome :=
  outcomes config (records.filterMap Record.keys?) machine

def displaysSeen (records : List Record) : List Display :=
  records.filterMap Record.display?

/-! ## Keys and displays on record -/

section

variable (keys : KeySet) (session : Session) (outcome : FrameOutcome)
  (elapsed : Float)

@[simp]
theorem keys_openRecords :
    (openRecords keys session outcome).filterMap Record.keys? = [keys] := by
  simp [openRecords, faultRecords, List.filterMap_map, Function.comp_def,
    Record.keys?]

theorem keys_frameRecords :
    (frameRecords keys session outcome elapsed).filterMap Record.keys? =
      [keys] := by
  rw [frameRecords, List.filterMap_append, keys_openRecords]
  rfl

@[simp]
theorem displaysSeen_frameRecords :
    displaysSeen (frameRecords keys session outcome elapsed) =
      [outcome.machine.display] := by
  simp [displaysSeen, frameRecords, openRecords, faultRecords, closingRecords,
    List.filterMap_cons, List.filterMap_append, List.filterMap_map,
    Function.comp_def, Record.display?, counted, after]

end

section

variable (config : Config) (between : List Record) (result : Result)

theorem keys_framed :
    (openingRecords config ++ between ++
        .released :: result.farewell).filterMap Record.keys? =
      between.filterMap Record.keys? := by
  cases ending : result.ending <;>
    simp [openingRecords, Result.farewell, ending, List.filterMap_cons,
      Record.keys?]

theorem displaysSeen_framed :
    displaysSeen
        (openingRecords config ++ between ++ .released :: result.farewell) =
      displaysSeen between := by
  cases ending : result.ending <;>
    simp [displaysSeen, openingRecords, Result.farewell, ending,
      List.filterMap_cons, Record.display?]

theorem asked_none_mem_framed :
    .asked (.ok none) ∈
        openingRecords config ++ between ++ .released :: result.farewell ↔
      .asked (.ok none) ∈ between := by
  cases ending : result.ending <;>
    simp [openingRecords, Result.farewell, ending]

end

variable {config : Config} {limit : Option Int} {given : Nat}
  {session final : Session} {records : List Record} {ending : Ending}

theorem framesSeen_ended
    {keys : KeySet} {machine : Machine}
    (read : records.filterMap Record.keys? = [keys])
    (ends : (playFrame config keys machine).course ≠ .goesOn) :
    framesSeen config records machine = [playFrame config keys machine] := by
  rw [framesSeen, read, outcomes]
  split
  · contradiction
  · rfl

theorem framesSeen_halted
    {keys : KeySet} {elapsed : Float} {outcome : FrameOutcome}
    (halts : (playFrame config keys session.machine).course = .halted) :
    framesSeen config (frameRecords keys session outcome elapsed)
        session.machine =
      [playFrame config keys session.machine] :=
  framesSeen_ended (keys_frameRecords ..) (by simp [halts])

theorem framesSeen_failed
    {keys : KeySet} {failure : Failure} {outcome : FrameOutcome}
    (fails :
      (playFrame config keys session.machine).course = .failed failure) :
    framesSeen config (openRecords keys session outcome) session.machine =
      [playFrame config keys session.machine] :=
  framesSeen_ended (keys_openRecords ..) (by simp [fails])

theorem framesSeen_next
    {keys : KeySet} {elapsed : Float} {outcome : FrameOutcome}
    (later : List Record)
    (goesOn : (playFrame config keys session.machine).course = .goesOn) :
    framesSeen config
        (frameRecords keys session outcome elapsed ++ later) session.machine =
      playFrame config keys session.machine ::
        framesSeen config later
          (playFrame config keys session.machine).machine := by
  rw [framesSeen, List.filterMap_append, keys_frameRecords]
  simp [outcomes, goesOn, framesSeen]

/-! ## What is left of the frames -/

/-- The machine of the session is the one that the last frame has left. -/
theorem Played.machine
    (played : Played config limit given session records final ending) :
    final.machine =
      lastMachine (framesSeen config records session.machine)
        session.machine := by
  induction played with
  | complete _ => rfl
  | stopped _ => rfl
  | halted _ halts =>
      rw [framesSeen_halted halts]
      rfl
  | failed _ fails =>
      rw [framesSeen_failed fails]
      rfl
  | next _ goesOn _ inductionHypothesis =>
      rw [framesSeen_next _ goesOn, inductionHypothesis]
      rfl

/-- Unless a device fails, each frame is drawn once. -/
theorem Played.displays
    (played : Played config limit given session records final ending)
    (noFailure : ∀ failure, ending ≠ .failed failure) :
    displaysSeen records =
      (framesSeen config records session.machine).map fun outcome =>
        outcome.machine.display := by
  induction played with
  | complete _ => rfl
  | stopped _ => rfl
  | halted _ halts =>
      rw [framesSeen_halted halts, displaysSeen_frameRecords]
      rfl
  | failed _ _ => exact absurd rfl (noFailure _)
  | next _ goesOn _ inductionHypothesis =>
      rw [framesSeen_next _ goesOn, displaysSeen, List.filterMap_append,
        ← displaysSeen, displaysSeen_frameRecords, ← displaysSeen,
        inductionHypothesis noFailure]
      rfl

/-- A session ends as its frames do, unless the front-end asks to stop. -/
theorem Played.endingAfter_framesSeen
    (played : Played config limit given session records final ending) :
    endingAfter (framesSeen config records session.machine) =
      if ending = .stopped then .complete else ending := by
  induction played with
  | complete _ => rfl
  | stopped _ => rfl
  | halted _ halts =>
      rw [framesSeen_halted halts]
      simp [endingAfter, halts]
  | failed _ fails =>
      rw [framesSeen_failed fails]
      simp [endingAfter, fails]
  | next _ goesOn _ inductionHypothesis =>
      rw [framesSeen_next _ goesOn, ← inductionHypothesis]
      simp [endingAfter, goesOn, counted, after]

theorem Played.ending_cases
    (played : Played config limit given session records final ending) :
    ending = .complete ∨ ending = .stopped ∨ ending = .halted ∨
      ∃ failure, ending = .failed failure := by
  induction played with
  | complete _ | stopped _ | halted _ _ | failed _ _ => simp
  | next _ _ _ inductionHypothesis => exact inductionHypothesis

theorem Played.asked_of_stopped
    (played : Played config limit given session records final .stopped) :
    .asked (.ok none) ∈ records := by
  generalize isEnding : Ending.stopped = ending at played
  induction played with
  | complete _ | halted _ _ | failed _ _ => cases isEnding
  | stopped _ => exact List.mem_cons_self
  | next _ _ _ inductionHypothesis =>
      exact List.mem_append_right _ (inductionHypothesis isEnding)

theorem Played.halted_eq
    (played : Played config limit given session records final ending) :
    final.stats.halted =
      (session.stats.halted || decide (ending = .halted)) := by
  induction played with
  | complete _ => simp
  | stopped _ => simp
  | halted _ halts => simp [counted, after, Stats.after, halts]
  | failed _ fails => simp [after, Stats.after, fails]
  | next _ goesOn _ inductionHypothesis =>
      rw [inductionHypothesis]
      simp [counted, after, Stats.after, goesOn]

/-! ## How many frames there are -/

@[simp]
theorem hasFrame_some_iff {most : Int} :
    HasFrame (some most) given ↔ (given : Int) < most := by
  simp [HasFrame]

/-- The keys are read once for each frame. -/
theorem Played.length_keys
    (played : Played config limit given session records final ending) :
    (records.filterMap Record.keys?).length =
      (framesSeen config records session.machine).length := by
  induction played with
  | complete _ => rfl
  | stopped _ => rfl
  | halted _ halts => rw [framesSeen_halted halts, keys_frameRecords]; rfl
  | failed _ fails => rw [framesSeen_failed fails, keys_openRecords]; rfl
  | next _ goesOn _ inductionHypothesis =>
      rw [framesSeen_next _ goesOn, List.filterMap_append, keys_frameRecords,
        List.length_append, inductionHypothesis, List.length_cons,
        Nat.add_comm]
      rfl

/-- No more frames are run than the limit allows. -/
theorem Played.length_le
    {most : Int}
    (played : Played config (some most) given session records final ending)
    (within : (given : Int) ≤ most) :
    (given + (framesSeen config records session.machine).length : Int) ≤
      most := by
  induction played with
  | complete _ => simpa [framesSeen, outcomes] using within
  | stopped _ =>
      simpa [framesSeen, List.filterMap_cons, Record.keys?, outcomes]
        using within
  | halted more halts =>
      rw [hasFrame_some_iff] at more
      rw [framesSeen_halted halts, List.length_singleton]
      omega
  | failed more fails =>
      rw [hasFrame_some_iff] at more
      rw [framesSeen_failed fails, List.length_singleton]
      omega
  | next more goesOn _ inductionHypothesis =>
      rw [hasFrame_some_iff] at more
      have bound := inductionHypothesis (by omega)
      simp only [counted, after] at bound
      rw [framesSeen_next _ goesOn, List.length_cons]
      omega

/-- A session that is complete has used its limit up. -/
theorem Played.le_length
    {most : Int}
    (played : Played config (some most) given session records final .complete) :
    most ≤
      given + (framesSeen config records session.machine).length := by
  generalize isEnding : Ending.complete = ending at played
  induction played with
  | complete used =>
      rw [hasFrame_some_iff] at used
      omega
  | stopped _ | halted _ _ | failed _ _ => cases isEnding
  | next _ goesOn _ inductionHypothesis =>
      have reached := inductionHypothesis isEnding
      simp only [counted, after] at reached
      rw [framesSeen_next _ goesOn, List.length_cons]
      omega

end Chip8.Session
