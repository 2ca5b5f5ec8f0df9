import Chip8.Proofs.PlayedFrames
import Chip8.Proofs.SessionClosure
import Chip8.Session.Headless

/-!
# Headless runs

On devices that never fail and leave the headless front-end to the session, a
headless run does what its frames do: nothing but the machine and the schedule
of keys has an influence on the machine at the end, the displays and the
ending.  So a run can be split into two shorter ones.
-/

namespace Chip8

variable {σ : Type}

/-- The observers never fail, and no device but the front-end itself changes
the headless front-end. -/
structure Devices.Steady (devices : Devices (StateT Desk (StateM σ))) :
    Prop where
  now : ∀ desk world,
    ((devices.now.run desk).run world).1.2.headless = desk.headless
  sleep : ∀ seconds desk world,
    (((devices.sleep seconds).run desk).run world).1.2.headless =
      desk.headless
  notify : ∀ event desk world,
    (((devices.notify event).run desk).run world).1.2.headless =
      desk.headless
  accepts : ∀ event desk world,
    (((devices.notify event).run desk).run world).1.1 = .ok ()

namespace Session

/-! ## The front-end and the record -/

/-- What the headless front-end knows of the records of its session. -/
structure Mirrors (schedule : Nat → KeySet) (headless : Headless)
    (records : List Record) : Prop where
  scheduled : headless.schedule = schedule
  unlimited : headless.limit = none
  keys : records.filterMap Record.keys? =
    (List.range headless.frame).map schedule
  displays : displaysSeen records = headless.frames
  unstopped : .asked (.ok none) ∉ records
  unbroken : ∀ record ∈ records, record.failure? = none

namespace Mirrors

variable {schedule : Nat → KeySet} {headless : Headless}
  {records : List Record}

theorem initial (schedule : Nat → KeySet) :
    Mirrors schedule { schedule := schedule } [] where
  scheduled := rfl
  unlimited := rfl
  keys := rfl
  displays := rfl
  unstopped := List.not_mem_nil
  unbroken := List.forall_mem_nil _

/-- One more record keeps the front-end and the records in step. -/
theorem extend
    (mirrors : Mirrors schedule headless records)
    {record : Record} {after : Headless}
    (sameSchedule : after.schedule = headless.schedule)
    (sameLimit : after.limit = headless.limit)
    (keys : (List.range after.frame).map schedule =
      (List.range headless.frame).map schedule ++ record.keys?.toList)
    (displays : after.frames = headless.frames ++ record.display?.toList)
    (noStop : record ≠ .asked (.ok none))
    (noFailure : record.failure? = none) :
    Mirrors schedule after (records ++ [record]) where
  scheduled := sameSchedule.trans mirrors.scheduled
  unlimited := sameLimit.trans mirrors.unlimited
  keys := by
    rw [List.filterMap_append, mirrors.keys, keys]
    cases isKeys : record.keys? <;> simp [isKeys]
  displays := by
    rw [displaysSeen, List.filterMap_append, ← displaysSeen,
      mirrors.displays, displays]
    cases isDisplay : record.display? <;> simp [isDisplay]
  unstopped := by simp [mirrors.unstopped, noStop.symm]
  unbroken :=
    List.forall_mem_append.mpr ⟨mirrors.unbroken, by simpa using noFailure⟩

/-- A record that is neither of keys nor of a drawing. -/
theorem note
    (mirrors : Mirrors schedule headless records) {record : Record}
    (noKeys : record.keys? = none) (noDisplay : record.display? = none)
    (noStop : record ≠ .asked (.ok none))
    (noFailure : record.failure? = none) :
    Mirrors schedule headless (records ++ [record]) :=
  mirrors.extend rfl rfl (by simp [noKeys]) (by simp [noDisplay]) noStop
    noFailure

theorem readKeys (mirrors : Mirrors schedule headless records) :
    Mirrors schedule headless.readKeys.2
      (records ++ [.asked (.ok headless.readKeys.1)]) := by
  have reading :
      headless.readKeys =
        (some (schedule headless.frame),
          { headless with frame := headless.frame + 1 }) := by
    simp [Headless.readKeys, mirrors.unlimited, mirrors.scheduled]
  rw [reading]
  refine mirrors.extend rfl rfl ?_ ?_ (by simp) rfl
  · simp [List.range_succ, Record.keys?]
  · simp [Headless.frames, Record.display?]

theorem draw
    (mirrors : Mirrors schedule headless records) (display : Display) :
    Mirrors schedule (headless.draw display)
      (records ++ [.drawn display (.ok ())]) := by
  refine mirrors.extend rfl rfl ?_ ?_ nofun rfl
  · simp [Headless.draw, Record.keys?]
  · simp [Headless.draw, Headless.frames, Record.display?]

end Mirrors

/-- The recorded actions that keep the front-end in line with the record. -/
def mirroring (schedule : Nat → KeySet) :
    ActionClass (StateT (List Record) (StateT Desk (StateM σ))) where
  Holds action := ∀ (records : List Record) (desk : Desk) (world : σ),
    Mirrors schedule desk.headless records →
      let output := ((action.run records).run desk).run world
      Mirrors schedule output.1.2.headless output.1.1.2
  ofPure _ _ _ _ mirrors := mirrors
  ofBind first next records desk world mirrors :=
    next _ _ _ _ (first records desk world mirrors)

private theorem within_mirroring
    {devices : Devices (StateT Desk (StateM σ))} (steady : devices.Steady)
    (schedule : Nat → KeySet) :
    Devices.Within
      ({ devices with frontend := Headless.frontend } :
        Devices (StateT Desk (StateM σ))).recording
      (mirroring schedule) where
  setup _ _ _ mirrors := mirrors.note rfl rfl nofun rfl
  readKeys _ _ _ mirrors := mirrors.readKeys
  draw display _ _ _ mirrors := mirrors.draw display
  cleanup _ _ _ mirrors := mirrors.note rfl rfl nofun rfl
  now records desk world mirrors := by
    change Mirrors schedule ((devices.now.run desk).run world).1.2.headless
      records
    rwa [steady.now]
  sleep seconds records desk world mirrors := by
    change Mirrors schedule
      (((devices.sleep seconds).run desk).run world).1.2.headless records
    rwa [steady.sleep]
  notify event records desk world mirrors := by
    change Mirrors schedule
      (((devices.notify event).run desk).run world).1.2.headless
      (records ++
        [.told event (((devices.notify event).run desk).run world).1.1])
    rw [steady.notify, steady.accepts]
    exact mirrors.note rfl rfl nofun rfl

/-! ## The frames of a headless run -/

private theorem outcomes_with_fps
    (config : Config) (rate : Int) (keys : List KeySet) (machine : Machine) :
    outcomes { config with fps := rate } keys machine =
      outcomes config keys machine := by
  induction keys generalizing machine with
  | nil => rfl
  | cons held later inductionHypothesis =>
      simp only [outcomes, inductionHypothesis]
      rfl

private theorem outcomes_range_of_ended
    {config : Config} {schedule : Nat → KeySet} {machine : Machine}
    {read count : Nat} (within : read ≤ count)
    (ended :
      endingAfter
        (outcomes config ((List.range read).map schedule) machine) ≠
          .complete) :
    outcomes config ((List.range count).map schedule) machine =
      outcomes config ((List.range read).map schedule) machine := by
  obtain ⟨extra, rfl⟩ := Nat.exists_eq_add_of_le within
  rw [List.range_add, List.map_append, outcomes_append_of_ended _ ended]

/-- The frames that a headless run plays are on record. -/
theorem exists_played_of_runHeadless
    {devices : Devices (StateT Desk (StateM σ))} (steady : devices.Steady)
    {config : Config} {count : Nat} {schedule : Nat → KeySet}
    {progress : Bool} {machine : Machine} {desk after : Desk}
    {world later : σ} {result : Result}
    (ran :
      ((runHeadless devices config count schedule progress machine).run
          desk).run world = ((result, after), later)) :
    ∃ played final elapsed,
      Played { config with fps := 0 } (some count) 0 { machine := machine }
        played final result.ending ∧
      result.session = final.timed elapsed ∧
      Mirrors schedule after.headless
        (openingRecords { config with fps := 0 } ++ played ++
          .released :: result.farewell) := by
  obtain ⟨added, recorded, course⟩ :=
    (follows_run { devices with frontend := Headless.frontend }
      { config with fps := 0 } (some count) progress 0
      { machine := machine }).exists_added_above []
        { desk with headless := { schedule := schedule } } world
  have mirrors :=
    holds_run (within_mirroring steady schedule) { config with fps := 0 }
      (some count) progress 0 { machine := machine } []
      { desk with headless := { schedule := schedule } } world
      (Mirrors.initial schedule)
  have sameRun :
      ((run { devices with frontend := Headless.frontend }
        { config with fps := 0 } (some count) progress 0
        { machine := machine }).run
          { desk with headless := { schedule := schedule } }).run world =
        ((result, after), later) := ran
  simp only [sameRun] at recorded course
  simp only [recorded, List.nil_append] at mirrors
  rcases course with ⟨failure, failed, aborted⟩ | ⟨unlimited, _⟩ |
    ⟨played, final, elapsed, frames, isSession, rfl⟩
  · rcases aborted.exists_failing with tooFast | ⟨record, belongs, fails⟩
    · simp [frameDuration] at tooFast
    · rw [mirrors.unbroken record belongs] at fails
      contradiction
  · cases unlimited
  · exact ⟨played, final, elapsed, frames, isSession, mirrors⟩

/-- A headless run does what its frames do. -/
theorem runHeadless_outcomes
    {devices : Devices (StateT Desk (StateM σ))} (steady : devices.Steady)
    {config : Config} {count : Nat} {schedule : Nat → KeySet}
    {progress : Bool} {machine : Machine} {desk after : Desk}
    {world later : σ} {result : Result}
    (ran :
      ((runHeadless devices config count schedule progress machine).run
          desk).run world = ((result, after), later)) :
    let frames := outcomes config ((List.range count).map schedule) machine
    result.ending = endingAfter frames ∧
      result.session.machine = lastMachine frames machine ∧
      result.session.stats.halted = decide (result.ending = .halted) ∧
      ((∀ failure, result.ending ≠ .failed failure) →
        after.headless.frames =
          frames.map fun frame => frame.machine.display) := by
  obtain ⟨played, final, elapsed, traced, isSession, mirrors⟩ :=
    exists_played_of_runHeadless steady ran
  have read := mirrors.keys
  rw [keys_framed] at read
  have unstopped : .asked (.ok none) ∉ played :=
    mt (asked_none_mem_framed _ _ _).mpr mirrors.unstopped
  have notStopped : result.ending ≠ .stopped := by
    intro stopped
    rw [stopped] at traced
    exact unstopped traced.asked_of_stopped
  have seen :
      framesSeen { config with fps := 0 } played machine =
        outcomes config ((List.range after.headless.frame).map schedule)
          machine := by
    rw [framesSeen, read, outcomes_with_fps]
  have ends := traced.endingAfter_framesSeen
  rw [if_neg notStopped, seen] at ends
  have readFrames :
      (framesSeen { config with fps := 0 } played machine).length =
        after.headless.frame := by
    rw [← traced.length_keys, read, List.length_map, List.length_range]
  have bound : after.headless.frame ≤ count := by
    have length := traced.length_le (Int.natCast_nonneg count)
    simp only [readFrames] at length
    omega
  have same :
      outcomes config ((List.range count).map schedule) machine =
        outcomes config ((List.range after.headless.frame).map schedule)
          machine := by
    by_cases complete : result.ending = .complete
    · rw [complete] at traced
      have length := traced.le_length
      simp only [readFrames] at length
      rw [show count = after.headless.frame by omega]
    · rw [← ends] at complete
      exact outcomes_range_of_ended bound complete
  intro frames
  have isFrames :
      frames = framesSeen { config with fps := 0 } played machine :=
    same.trans seen.symm
  rw [isFrames]
  refine ⟨?_, ?_, ?_, ?_⟩
  · rw [seen, ends]
  · rw [isSession, ← traced.machine]
    rfl
  · rw [isSession]
    exact traced.halted_eq
  · intro noFailure
    rw [← mirrors.displays, displaysSeen_framed, traced.displays noFailure]

/-! ## Splitting a run -/

/-- A run that does not fail and is not halted in its first frames leaves the
same machine and the same displays as these frames followed by a run of the
others, for which the schedule is moved on.  The three runs may start on any
desk in any world. -/
theorem runHeadless_split
    {devices : Devices (StateT Desk (StateM σ))} (steady : devices.Steady)
    {config : Config} {schedule : Nat → KeySet} {earlier later : Nat}
    {progress : Bool} {machine : Machine}
    {desk wholeDesk firstStart firstDesk secondStart secondDesk : Desk}
    {world wholeWorld firstOpening firstWorld secondOpening secondWorld : σ}
    {whole first second : Result}
    (ranWhole :
      ((runHeadless devices config (earlier + later : Nat) schedule progress
          machine).run desk).run world = ((whole, wholeDesk), wholeWorld))
    (ranFirst :
      ((runHeadless devices config earlier schedule progress
          machine).run firstStart).run firstOpening =
        ((first, firstDesk), firstWorld))
    (ranSecond :
      ((runHeadless devices config later
          (fun frame => schedule (earlier + frame)) progress
          first.session.machine).run secondStart).run secondOpening =
        ((second, secondDesk), secondWorld))
    (noFailure : ∀ failure, whole.ending ≠ .failed failure)
    (going : first.session.stats.halted = false) :
    whole.session.machine = second.session.machine ∧
      wholeDesk.headless.frames =
        firstDesk.headless.frames ++ secondDesk.headless.frames ∧
      first.ending = .complete ∧ second.ending = whole.ending := by
  obtain ⟨wholeEnding, wholeMachine, _, wholeDisplays⟩ :=
    runHeadless_outcomes steady ranWhole
  obtain ⟨firstEnding, firstMachine, firstHalted, firstDisplays⟩ :=
    runHeadless_outcomes steady ranFirst
  obtain ⟨secondEnding, secondMachine, _, secondDisplays⟩ :=
    runHeadless_outcomes steady ranSecond
  have wholeKeys :
      (List.range (earlier + later)).map schedule =
        (List.range earlier).map schedule ++
          (List.range later).map fun frame => schedule (earlier + frame) := by
    rw [List.range_add, List.map_append, List.map_map]
    rfl
  have notHalted : first.ending ≠ .halted := by
    simpa [going] using firstHalted
  have complete : first.ending = .complete := by
    rcases endingAfter_cases
        (outcomes config ((List.range earlier).map schedule) machine) with
      done | halted | ⟨failure, failed⟩
    · exact firstEnding.trans done
    · exact absurd (firstEnding.trans halted) notHalted
    · -- the whole run would have failed in the same frame
      rw [wholeKeys, outcomes_append_of_ended _ (by simp [failed]), failed]
        at wholeEnding
      exact absurd wholeEnding (noFailure failure)
  have frames := outcomes_append_of_complete
    ((List.range later).map fun frame => schedule (earlier + frame))
    (firstEnding.symm.trans complete)
  rw [← wholeKeys, ← firstMachine] at frames
  have sameEnding : second.ending = whole.ending := by
    rw [wholeEnding, frames, secondEnding, endingAfter_append_of_complete]
    exact firstEnding.symm.trans complete
  refine ⟨?_, ?_, complete, sameEnding⟩
  · rw [wholeMachine, frames, lastMachine_append, ← firstMachine,
      secondMachine]
  · rw [wholeDisplays noFailure, frames, List.map_append,
      firstDisplays (by simp [complete]),
      secondDisplays (by rwa [sameEnding])]

def quiet : Devices (StateT Desk (StateM Unit)) where
  frontend := Headless.frontend
  now := pure 0
  sleep _ := pure ()
  notify _ := pure (.ok ())

private theorem steady_quiet : quiet.Steady where
  now _ _ := rfl
  sleep _ _ _ := rfl
  notify _ _ _ := rfl
  accepts _ _ _ := rfl

/-- A machine that waits for a key, takes a random byte, draws, and then
returns without having been called. -/
def keyWait : Machine :=
  { Machine.initial (.replay ⟨[7], 0⟩) none with
    memory := (Bytes.zeros memorySize).overwrite 0
      [0xF1, 0x0A, 0xC2, 0xFF, 0xD0, 0x11, 0x00, 0xEE]
    counter := 0 }

/-- The fifth key is held in the second frame. -/
def keyWaitSchedule (frame : Nat) : KeySet :=
  if frame = 1 then .singleton 5 else ∅

def keyWaitRun (count : Nat) (schedule : Nat → KeySet) (machine : Machine) :
    (Result × Desk) × Unit :=
  ((runHeadless quiet { instructionsPerFrame := 2 } count schedule false
    machine).run {}).run ()

theorem runHeadless_split_keyWait :
    let whole := keyWaitRun (2 + 2) keyWaitSchedule keyWait
    let first := keyWaitRun 2 keyWaitSchedule keyWait
    let second :=
      keyWaitRun 2 (fun frame => keyWaitSchedule (2 + frame))
        first.1.1.session.machine
    whole.1.1.ending = .halted ∧ first.1.1.ending = .complete ∧
      whole.1.1.session.machine = second.1.1.session.machine ∧
      whole.1.2.headless.frames =
        first.1.2.headless.frames ++ second.1.2.headless.frames := by
  have halted :
      (keyWaitRun (2 + 2) keyWaitSchedule keyWait).1.1.ending = .halted := by
    decide +kernel
  have going :
      (keyWaitRun 2 keyWaitSchedule keyWait).1.1.session.stats.halted =
        false := by
    decide +kernel
  rcases ranWhole : keyWaitRun (2 + 2) keyWaitSchedule keyWait with
    ⟨⟨whole, wholeDesk⟩, _⟩
  rcases ranFirst : keyWaitRun 2 keyWaitSchedule keyWait with
    ⟨⟨first, firstDesk⟩, _⟩
  rcases ranSecond :
      keyWaitRun 2 (fun frame => keyWaitSchedule (2 + frame))
        first.session.machine with
    ⟨⟨second, secondDesk⟩, _⟩
  simp only [ranWhole] at halted
  simp only [ranFirst] at going
  have split := runHeadless_split steady_quiet ranWhole ranFirst ranSecond
    (by simp [halted]) going
  simp only [ranSecond]
  exact ⟨halted, split.2.2.1, split.1, split.2.1⟩

end Session

end Chip8
