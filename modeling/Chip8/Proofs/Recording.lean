import Mathlib.Tactic.Choose
import Chip8.Session.Run

/-!
# Recorded sessions

The devices of a session can keep a record of everything that is asked of
them, with their answers: the settings up and releases of the front-end, the
readings of its keys, the displays drawn, and the events that the observers are
told.  `Follows` relates an action on recording devices to the same action on
the devices themselves: both do the same, and what is added to the record
satisfies a condition.
-/

namespace Chip8

namespace Session

/-- What is seen of a session from outside. -/
inductive Record where
  | prepared (answer : Except Failure Unit)
  | asked (answer : Except Failure (Option KeySet))
  | drawn (display : Display) (answer : Except Failure Unit)
  | released
  | told (event : Event) (answer : Except Failure Unit)

def Record.failure? : Record → Option Failure
  | .prepared (.error failure) => some failure
  | .asked (.error failure) => some failure
  | .drawn _ (.error failure) => some failure
  | .told _ (.error failure) => some failure
  | _ => none

/-- Whether a record belongs to a frame, and not to the start or the end of a
run. -/
def Record.isOfFrame : Record → Bool
  | .asked _ | .drawn _ _ | .told (.fault _ _) _ | .told (.frame _ _) _ => true
  | _ => false

def Smooth (records : List Record) : Prop :=
  ∀ record ∈ records, record.isOfFrame = true ∧ record.failure? = none

theorem smooth_single
    {record : Record}
    (ofFrame : record.isOfFrame = true) (works : record.failure? = none) :
    Smooth [record] :=
  List.forall_mem_singleton.mpr ⟨ofFrame, works⟩

theorem Smooth.append
    {earlier later : List Record}
    (first : Smooth earlier) (second : Smooth later) :
    Smooth (earlier ++ later) :=
  List.forall_mem_append.mpr ⟨first, second⟩

/-- The latest record is that of a device that failed in a frame. -/
def BrokenOff (records : List Record) (failure : Failure) : Prop :=
  ∃ earlier latest, records = earlier ++ [latest] ∧ Smooth earlier ∧
    latest.isOfFrame = true ∧ latest.failure? = some failure

theorem BrokenOff.single
    {record : Record} {failure : Failure}
    (ofFrame : record.isOfFrame = true)
    (fails : record.failure? = some failure) :
    BrokenOff [record] failure :=
  ⟨[], record, rfl, List.forall_mem_nil _, ofFrame, fails⟩

theorem BrokenOff.append
    {earlier later : List Record} {failure : Failure}
    (smooth : Smooth earlier) (broken : BrokenOff later failure) :
    BrokenOff (earlier ++ later) failure := by
  obtain ⟨between, latest, rfl, alsoSmooth, ofFrame, fails⟩ := broken
  exact ⟨earlier ++ between, latest, (List.append_assoc ..).symm,
    smooth.append alsoSmooth, ofFrame, fails⟩

/-- Performs an action and adds to the record what its answer tells. -/
def noting {m : Type → Type} [Monad m] {α : Type} (record : α → Record)
    (action : m α) : StateT (List Record) m α := do
  let answer ← StateT.lift action
  modify (· ++ [record answer])
  return answer

end Session

/-- The devices with a record of what is asked of them. -/
def Devices.recording {m : Type → Type} [Monad m] (devices : Devices m) :
    Devices (StateT (List Session.Record) m) where
  frontend :=
    { setup := Session.noting .prepared devices.frontend.setup
      readKeys := Session.noting .asked devices.frontend.readKeys
      draw := fun display =>
        Session.noting (.drawn display) (devices.frontend.draw display)
      cleanup := Session.noting (fun _ => .released) devices.frontend.cleanup }
  now := StateT.lift devices.now
  sleep seconds := StateT.lift (devices.sleep seconds)
  notify event := Session.noting (.told event) (devices.notify event)

namespace Session

variable {m : Type → Type} [Monad m] [LawfulMonad m] {α β : Type}

/-- The recorded action does what the plain one does and adds to the record
what the condition allows. -/
def Follows (recorded : StateT (List Record) m α) (plain : m α)
    (Adds : List Record → α → Prop) : Prop :=
  ∃ both : m { output : List Record × α // Adds output.1 output.2 },
    plain = (fun output => output.1.2) <$> both ∧
      ∀ records, recorded.run records =
        (fun output => (output.1.2, records ++ output.1.1)) <$> both

namespace Follows

theorem of_pure
    {value : α} {Adds : List Record → α → Prop} (adds : Adds [] value) :
    Follows (m := m) (pure value) (pure value) Adds := by
  refine ⟨pure ⟨([], value), adds⟩, ?_, ?_⟩
  · rw [map_pure]
  · intro records
    rw [map_pure, List.append_nil]
    rfl

/-- A recorded computation follows a plain one if its parts do, and their
records stand one behind the other. -/
theorem bind
    {recorded : StateT (List Record) m α} {plain : m α}
    {recordedNext : α → StateT (List Record) m β} {plainNext : α → m β}
    {First : List Record → α → Prop} {Adds : List Record → β → Prop}
    (first : Follows recorded plain First)
    (next : ∀ added value, First added value →
      Follows (recordedNext value) (plainNext value)
        fun later result => Adds (added ++ later) result) :
    Follows (recorded >>= recordedNext) (plain >>= plainNext) Adds := by
  obtain ⟨both, rfl, ranFirst⟩ := first
  choose bothNext plainIs ranNext using next
  refine ⟨both >>= fun output =>
    (fun last => ⟨(output.1.1 ++ last.1.1, last.1.2), last.2⟩) <$>
      bothNext output.1.1 output.1.2 output.2, ?_, ?_⟩
  · simp only [bind_map_left, map_bind, Functor.map_map]
    exact bind_congr fun output => plainIs _ _ output.2
  · intro records
    simp only [StateT.run_bind, ranFirst, bind_map_left, map_bind,
      Functor.map_map, ← List.append_assoc]
    exact bind_congr fun output => ranNext _ _ output.2 _

theorem lift (action : m α) :
    Follows (StateT.lift action) action fun added _ => added = [] := by
  refine ⟨(fun value => ⟨([], value), rfl⟩) <$> action, ?_, ?_⟩
  · simp
  · intro records
    simp

theorem noting (record : α → Record) (action : m α) :
    Follows (noting record action) action
      fun added value => added = [record value] := by
  refine ⟨(fun value => ⟨([record value], value), rfl⟩) <$> action, ?_, ?_⟩
  · simp
  · intro records
    simp [Session.noting]

theorem weaken
    {recorded : StateT (List Record) m α} {plain : m α}
    {First Adds : List Record → α → Prop}
    (follows : Follows recorded plain First)
    (weaker : ∀ added value, First added value → Adds added value) :
    Follows recorded plain Adds := by
  obtain ⟨both, rfl, ran⟩ := follows
  refine ⟨(fun output => ⟨output.1, weaker _ _ output.2⟩) <$> both, ?_, ?_⟩
  · simp
  · intro records
    simp [ran]

/-- In a world that both actions change alike. -/
theorem exists_added
    {σ : Type} {recorded : StateT (List Record) (StateM σ) α}
    {plain : StateM σ α} {Adds : List Record → α → Prop}
    (follows : Follows recorded plain Adds)
    (records : List Record) (world : σ) :
    ∃ added,
      (recorded.run records).run world =
        (((plain.run world).1, records ++ added), (plain.run world).2) ∧
      Adds added (plain.run world).1 := by
  obtain ⟨both, rfl, ran⟩ := follows
  rw [ran]
  exact ⟨(both.run world).1.1.1, rfl, (both.run world).1.2⟩

/-- What a recorded action has done is what the plain one does. -/
theorem of_run
    {σ : Type} {recorded : StateT (List Record) (StateM σ) α}
    {plain : StateM σ α} {Adds : List Record → α → Prop}
    (follows : Follows recorded plain Adds)
    {records : List Record} {value : α} {world after : σ}
    (ran : (recorded.run []).run world = ((value, records), after)) :
    plain.run world = (value, after) ∧ Adds records value := by
  obtain ⟨added, recordedIs, adds⟩ := follows.exists_added [] world
  rw [ran, List.nil_append] at recordedIs
  obtain ⟨isOutput, isAfter⟩ := Prod.mk.inj recordedIs
  obtain ⟨isValue, isRecords⟩ := Prod.mk.inj isOutput
  refine ⟨Prod.ext isValue.symm isAfter.symm, ?_⟩
  rwa [isRecords, isValue]

/-- In a world with a further part on top of it. -/
theorem exists_added_above
    {σ τ : Type} {recorded : StateT (List Record) (StateT τ (StateM σ)) α}
    {plain : StateT τ (StateM σ) α} {Adds : List Record → α → Prop}
    (follows : Follows recorded plain Adds)
    (records : List Record) (part : τ) (world : σ) :
    let output := (plain.run part).run world
    ∃ added,
      ((recorded.run records).run part).run world =
        (((output.1.1, records ++ added), output.1.2), output.2) ∧
      Adds added output.1.1 := by
  obtain ⟨both, rfl, ran⟩ := follows
  rw [ran]
  exact ⟨((both.run part).run world).1.1.1.1, rfl,
    ((both.run part).run world).1.1.2⟩

end Follows

end Session

end Chip8
