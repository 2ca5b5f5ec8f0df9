import Chip8.Session.Run

/-!
# Classes of actions

A session does nothing but sequence the operations of its devices.  So a class
of actions that is closed under sequencing holds a whole run as soon as it
holds these operations.  The invariants of a world are such classes.
-/

namespace Chip8

/-- A class of actions that is closed under sequencing. -/
structure ActionClass (m : Type → Type) [Monad m] where
  Holds : {α : Type} → m α → Prop
  ofPure : ∀ {α : Type} (value : α), Holds (pure value)
  ofBind : ∀ {α β : Type} {action : m α} {next : α → m β},
    Holds action → (∀ value, Holds (next value)) → Holds (action >>= next)

variable {m : Type → Type} [Monad m]

/-- All operations of the devices belong to the class. -/
structure Devices.Within (devices : Devices m) (actions : ActionClass m) :
    Prop where
  setup : actions.Holds devices.frontend.setup
  readKeys : actions.Holds devices.frontend.readKeys
  draw : ∀ display, actions.Holds (devices.frontend.draw display)
  cleanup : actions.Holds devices.frontend.cleanup
  now : actions.Holds devices.now
  sleep : ∀ seconds, actions.Holds (devices.sleep seconds)
  notify : ∀ event, actions.Holds (devices.notify event)

namespace Session

variable {devices : Devices m} {actions : ActionClass m}

theorem holds_pace
    (now : actions.Holds devices.now)
    (sleep : ∀ seconds, actions.Holds (devices.sleep seconds))
    (duration lastEnd : Float) :
    actions.Holds (pace devices duration lastEnd) := by
  unfold pace
  split
  · refine actions.ofBind now fun time => ?_
    dsimp only
    split
    · exact actions.ofBind (sleep _) fun _ => now
    · exact now
  · exact now

variable (within : devices.Within actions)

include within

private theorem holds_runCycles
    (haltOnFault : Bool) (keys : KeySet) (count : Nat) (session : Session) :
    actions.Holds
      (runCycles devices.notify haltOnFault keys count session) := by
  induction count generalizing session with
  | zero => exact actions.ofPure _
  | succ count inductionHypothesis =>
      unfold runCycles
      cases session.machine.cycle keys with
      | done next => exact inductionHypothesis _
      | failure failure next => exact actions.ofPure _
      | fault fault next =>
          refine actions.ofBind (within.notify _) ?_
          rintro (failure | _)
          · exact actions.ofPure _
          · cases haltOnFault with
            | true => exact actions.ofPure _
            | false => exact inductionHypothesis _

private theorem holds_finishFrame (start : Float) (session : Session) :
    actions.Holds (session.finishFrame devices start) := by
  refine actions.ofBind (within.draw _) ?_
  rintro (failure | _)
  · exact actions.ofPure _
  · refine actions.ofBind within.now fun time => ?_
    exact actions.ofBind (within.notify _) fun _ => actions.ofPure _

private theorem holds_runFrame
    (config : Config) (start : Float) (keys : KeySet) (session : Session) :
    actions.Holds (session.runFrame devices config start keys) := by
  refine actions.ofBind (holds_runCycles within _ _ _ _) ?_
  rintro ⟨stepped, course⟩
  cases course with
  | failed failure => exact actions.ofPure _
  | goesOn | halted =>
      refine actions.ofBind (holds_finishFrame within start stepped) ?_
      rintro ⟨finished, failure | _⟩ <;> exact actions.ofPure _

private theorem holds_runFrames
    (config : Config) (duration start : Float) (patience : Nat)
    (supply : FrameSupply) (lastEnd : Float) (session : Session) :
    actions.Holds
      (runFrames devices config duration start patience supply lastEnd
        session) := by
  induction patience generalizing supply lastEnd session with
  | zero => exact actions.ofPure _
  | succ patience inductionHypothesis =>
      unfold runFrames
      rcases supply.next with ⟨_ | frame, after⟩
      · exact actions.ofPure _
      refine actions.ofBind within.readKeys ?_
      rintro (failure | _ | keys)
      · exact actions.ofPure _
      · exact actions.ofPure _
      refine actions.ofBind (holds_runFrame within config start keys session) ?_
      rintro ⟨played, course⟩
      cases course with
      | failed failure => exact actions.ofPure _
      | halted => exact actions.ofPure _
      | goesOn =>
          refine actions.ofBind
            (holds_pace within.now within.sleep duration lastEnd) ?_
          exact fun frameEnd => inductionHypothesis after frameEnd played

private theorem holds_report (result : Result) :
    actions.Holds (result.report devices.notify) := by
  unfold Result.report
  cases result.ending with
  | failed failure => exact actions.ofPure _
  | complete | stopped | halted | unfinished =>
      refine actions.ofBind (within.notify _) ?_
      rintro (failure | _) <;> exact actions.ofPure _

/-- A run is made of the actions of its devices, so whatever holds of these
holds of it. -/
theorem holds_run
    (config : Config) (limit : Option Int) (progress : Bool) (patience : Nat)
    (session : Session) :
    actions.Holds (session.run devices config limit progress patience) := by
  unfold run
  cases frameDuration config.fps with
  | error failure => exact actions.ofPure _
  | ok duration =>
      refine actions.ofBind (within.notify _) ?_
      rintro (failure | _)
      · exact actions.ofPure _
      refine actions.ofBind within.now fun start => ?_
      refine actions.ofBind within.setup ?_
      rintro (failure | _)
      · exact actions.ofPure _
      refine actions.ofBind ?_ (holds_report within)
      refine actions.ofBind (holds_runFrames within _ _ _ _ _ _ _) ?_
      intro played
      refine actions.ofBind within.cleanup fun _ => ?_
      exact actions.ofBind within.now fun _ => actions.ofPure _

end Session

end Chip8
