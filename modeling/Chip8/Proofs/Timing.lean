import Chip8.Clock
import Chip8.Proofs.Accounting
import Chip8.Proofs.SessionCoupling

/-!
# Sessions and time

How fast the frames of a session follow each other, what its clock shows and
how it sleeps make no difference to what is emulated, drawn and told, except
for the times themselves.
-/

namespace Chip8

open Session

/-- The record without the times that observers are told. -/
def Session.Record.untimed : Record → Record
  | .told event answer => .told event.untimed answer
  | record => record

private theorem Session.Record.display?_untimed (record : Record) :
    record.untimed.display? = record.display? := by
  cases record <;> rfl

private theorem Session.displays_of_untimed
    {records others : List Record}
    (same : records.map Record.untimed = others.map Record.untimed) :
    records.filterMap Record.display? = others.filterMap Record.display? := by
  have untimedDisplay : Record.display? ∘ Record.untimed = Record.display? :=
    funext Record.display?_untimed
  have sameDisplays :=
    congrArg (List.filterMap Record.display?) same
  rwa [List.filterMap_map, List.filterMap_map, untimedDisplay] at sameDisplays

namespace Coupling

/-- The actions give related answers in related worlds and leave them
related. -/
def ofWorlds {σ τ : Type} (Related : σ → τ → Prop) :
    Coupling (StateM σ) (StateM τ) where
  Holds action otherAction Same :=
    ∀ world other, Related world other →
      Same (action.run world).1 (otherAction.run other).1 ∧
        Related (action.run world).2 (otherAction.run other).2
  ofPure same _ _ related := ⟨same, related⟩
  ofBind first later := by
    intro world other related
    obtain ⟨same, relatedAfter⟩ := first world other related
    exact later _ _ same _ _ relatedAfter

section

variable {m n : Type → Type} [Monad m] [Monad n]

/-- The same for actions that keep records, which may differ in their
times. -/
def recording (coupling : Coupling m n) :
    Coupling (StateT (List Record) m) (StateT (List Record) n) where
  Holds action otherAction Same :=
    ∀ records others,
      records.map Record.untimed = others.map Record.untimed →
      coupling.Holds (action.run records) (otherAction.run others)
        fun result other =>
          Same result.1 other.1 ∧
            result.2.map Record.untimed = other.2.map Record.untimed
  ofPure same _ _ sameRecords := coupling.ofPure ⟨same, sameRecords⟩
  ofBind first later := by
    intro records others sameRecords
    refine coupling.ofBind (first records others sameRecords) ?_
    intro result other same
    exact later result.1 other.1 same.1 result.2 other.2 same.2

variable {coupling : Coupling m n} {α β : Type}

theorem lift_recording
    {action : m α} {otherAction : n β} {Same : α → β → Prop}
    (together : coupling.Holds action otherAction Same) :
    coupling.recording.Holds (StateT.lift action) (StateT.lift otherAction)
      Same := by
  intro records others sameRecords
  rw [StateT.run_lift, StateT.run_lift]
  refine coupling.ofBind together ?_
  intro value other same
  exact coupling.ofPure ⟨same, sameRecords⟩

/-- Coupled actions with the same records stay coupled when they are recorded.
-/
theorem noting_recording
    {action : m α} {otherAction : n α} {record otherRecord : α → Record}
    (together : coupling.Holds action otherAction Eq)
    (sameRecord : ∀ value,
      (record value).untimed = (otherRecord value).untimed) :
    coupling.recording.Holds (noting record action)
      (noting otherRecord otherAction) Eq := by
  refine coupling.recording.ofBind (lift_recording together) ?_
  intro value other same
  subst same
  refine @Coupling.ofBind _ _ _ _ coupling.recording _ _ _ _ Eq _ _ _ _ _ ?_ ?_
  · intro records others sameRecords
    refine coupling.ofPure ⟨rfl, ?_⟩
    simp [sameRecords, sameRecord]
  · intro _ _ _
    exact coupling.recording.ofPure rfl

theorem lift_nothing [LawfulMonad m] :
    (StateT.lift (pure ()) : StateT (List Record) m Unit) = pure () := by
  ext records
  simp

theorem silent_recording
    [LawfulMonad n] {action : m α} (silent : coupling.silent.Holds action) :
    coupling.recording.silent.Holds
      (StateT.lift action : StateT (List Record) m α) := by
  have together := lift_recording silent
  rwa [lift_nothing] at together

theorem swap_silent_recording
    [LawfulMonad m] {action : n α} (silent : coupling.swap.silent.Holds action) :
    coupling.recording.swap.silent.Holds
      (StateT.lift action : StateT (List Record) n α) := by
  have together := lift_recording silent
  rwa [lift_nothing] at together

private theorem alike_recording
    [LawfulMonad m] [LawfulMonad n] {first : Devices m} {second : Devices n}
    (alike : first.Alike second coupling) :
    first.recording.Alike second.recording coupling.recording where
  setup := noting_recording alike.setup fun _ => rfl
  readKeys := noting_recording alike.readKeys fun _ => rfl
  draw display := noting_recording (alike.draw display) fun _ => rfl
  cleanup := noting_recording alike.cleanup fun _ => rfl
  notify event other same :=
    noting_recording (alike.notify event other same) fun answer =>
      congrArg (Record.told · answer) same
  now := silent_recording alike.now
  sleep seconds := silent_recording (alike.sleep seconds)
  otherNow := swap_silent_recording alike.otherNow
  otherSleep seconds := swap_silent_recording (alike.otherSleep seconds)

end

end Coupling

namespace Session

theorem exists_frameDuration
    {rate : Int} (convertible : (Float.ofInt rate).isInf = false) :
    ∃ duration, frameDuration rate = .ok duration := by
  unfold frameDuration
  by_cases positive : 0 < rate
  · exact ⟨1 / Float.ofInt rate, by simp [positive, convertible]⟩
  · exact ⟨0, if_neg positive⟩

def scripted : Devices (StateM (List KeySet × Clock)) where
  frontend :=
    { setup := pure (.ok ())
      readKeys := modifyGet fun world =>
        (.ok world.1.head?, (world.1.tail, world.2))
      draw := fun _ => pure (.ok ())
      cleanup := pure () }
  now := modifyGet fun world =>
    (world.2.read.1, (world.1, world.2.read.2))
  sleep seconds := modify fun world => (world.1, world.2.sleep seconds)
  notify _ := pure (.ok ())

private theorem alike_scripted :
    scripted.Alike scripted
      (.ofWorlds fun world other => world.1 = other.1) where
  setup _ _ same := ⟨rfl, same⟩
  readKeys := by
    intro world other same
    simp only [scripted, StateT.run_modifyGet, same]
    exact ⟨rfl, rfl⟩
  draw _ _ _ same := ⟨rfl, same⟩
  cleanup _ _ same := ⟨rfl, same⟩
  notify _ _ _ _ _ same := ⟨rfl, same⟩
  now _ _ same := ⟨trivial, same⟩
  sleep _ _ _ same := ⟨trivial, same⟩
  otherNow _ _ same := ⟨trivial, same⟩
  otherSleep _ _ _ same := ⟨trivial, same⟩

/-- A run that the stray return halts in its second frame. -/
def clockedRun (rate : Int) (progress : Bool) (clock : Clock) :
    (Result × List Record) × (List KeySet × Clock) :=
  ((run scripted.recording { instructionsPerFrame := 2, fps := rate } (some 5)
    progress 0 { machine := strayReturn }).run []).run
      ([∅, .singleton 1, ∅], clock)

end Session

end Chip8
