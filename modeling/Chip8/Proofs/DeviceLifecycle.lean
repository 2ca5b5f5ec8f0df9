import Chip8.Proofs.Accounting
import Chip8.Proofs.SessionClosure

/-!
# The life of the devices

A front-end that has been set up has to be released, in whatever way the session
ends.  Here every observer is a device of its own, and all calls of the
front-end and of the observers are listed in their order.  A session tells its
observers about an event one after the other until one of them fails, so each
of its records stands for a group of calls.
-/

namespace Chip8

namespace Session

/-- A call of the front-end or of the observer with a number. -/
structure Call where
  record : Record
  observer : Option Nat := none

def Call.told (observer : Nat) (event : Event) (answer : Except Failure Unit) :
    Call where
  record := .told event answer
  observer := some observer

variable {m : Type → Type} [Monad m]

/-- Performs an action and adds a call to the list. -/
def listing {α : Type} (call : α → Call) (action : m α) :
    StateT (List Call) m α := do
  let answer ← StateT.lift action
  modify (· ++ [call answer])
  return answer

/-- Tells observers about an event until one of them fails.  They are numbered
from the given number on. -/
def tell (event : Event) :
    Nat → List (Event → m (Except Failure Unit)) →
      StateT (List Call) m (Except Failure Unit)
  | _, [] => return .ok ()
  | number, observer :: rest => do
      match ← listing (Call.told number event) (observer event) with
      | .error failure => return .error failure
      | .ok () => tell event (number + 1) rest

end Session

/-- What surrounds a session, with a list of observers. -/
structure Ensemble (m : Type → Type) where
  frontend : Frontend m
  now : m Float
  sleep : Float → m Unit
  observers : List (Session.Event → m (Except Failure Unit))

/-- The devices of an ensemble, which list all their calls. -/
def Ensemble.devices {m : Type → Type} [Monad m] (ensemble : Ensemble m) :
    Devices (StateT (List Session.Call) m) where
  frontend :=
    { setup :=
        Session.listing (fun answer => { record := .prepared answer })
          ensemble.frontend.setup
      readKeys :=
        Session.listing (fun answer => { record := .asked answer })
          ensemble.frontend.readKeys
      draw := fun display =>
        Session.listing (fun answer => { record := .drawn display answer })
          (ensemble.frontend.draw display)
      cleanup :=
        Session.listing (fun _ => { record := .released })
          ensemble.frontend.cleanup }
  now := StateT.lift ensemble.now
  sleep seconds := StateT.lift (ensemble.sleep seconds)
  notify event := Session.tell event 0 ensemble.observers

namespace Session

/-! ## The calls behind a record -/

/-- The calls by which observers, numbered from the first number on, are told
about an event. -/
inductive Told (event : Event) :
    Nat → Nat → Except Failure Unit → List Call → Prop
  | nobody (number : Nat) : Told event number 0 (.ok ()) []
  | accepted {number count : Nat} {answer : Except Failure Unit}
      {calls : List Call}
      (rest : Told event (number + 1) count answer calls) :
      Told event number (count + 1) answer
        (.told number event (.ok ()) :: calls)
  | refused (number count : Nat) (failure : Failure) :
      Told event number (count + 1) (.error failure)
        [.told number event (.error failure)]

private theorem run_bind_above
    {σ τ α β : Type} (action : StateT τ (StateM σ) α)
    (next : α → StateT τ (StateM σ) β) (part : τ) (world : σ) :
    ((action >>= next).run part).run world =
      ((next ((action.run part).run world).1.1).run
        ((action.run part).run world).1.2).run
          ((action.run part).run world).2 :=
  rfl

private theorem run_listing
    {σ α : Type} (call : α → Call) (action : StateM σ α) (calls : List Call)
    (world : σ) :
    ((listing call action).run calls).run world =
      (((action.run world).1, calls ++ [call (action.run world).1]),
        (action.run world).2) :=
  rfl

private theorem told_of_tell
    {σ : Type} (event : Event) (number : Nat)
    (observers : List (Event → StateM σ (Except Failure Unit)))
    (calls : List Call) (world : σ) :
    let output := ((tell event number observers).run calls).run world
    ∃ added, output.1.2 = calls ++ added ∧
      Told event number observers.length output.1.1 added := by
  induction observers generalizing number calls world with
  | nil => exact ⟨[], (List.append_nil calls).symm, .nobody number⟩
  | cons observer rest inductionHypothesis =>
      unfold tell
      rw [run_bind_above, run_listing]
      cases ((observer event).run world).1 with
      | error failure => exact ⟨_, rfl, .refused number rest.length failure⟩
      | ok _ =>
          obtain ⟨added, isAdded, told⟩ :=
            inductionHypothesis (number + 1)
              (calls ++ [.told number event (.ok ())])
              ((observer event).run world).2
          refine ⟨.told number event (.ok ()) :: added, ?_, told.accepted⟩
          exact isAdded.trans (List.append_assoc calls _ added)

/-- All observers have accepted the event, or the last one of those that were
called has failed. -/
theorem Told.calls_cases
    {event : Event} {number count : Nat} {answer : Except Failure Unit}
    {calls : List Call}
    (told : Told event number count answer calls) :
    (answer = .ok () ∧
      calls =
        (List.range' number count).map fun observer =>
          .told observer event (.ok ())) ∨
    ∃ failure earlier observer,
      answer = .error failure ∧
      calls = earlier ++ [.told observer event (.error failure)] ∧
      ∀ call ∈ earlier, call.record = .told event (.ok ()) := by
  induction told with
  | nobody number => exact .inl ⟨rfl, rfl⟩
  | @accepted number count answer calls rest inductionHypothesis =>
      rcases inductionHypothesis with ⟨accepts, isCalls⟩ |
        ⟨failure, earlier, observer, refuses, isCalls, accept⟩
      · refine .inl ⟨accepts, ?_⟩
        rw [isCalls, List.range'_succ, List.map_cons]
      · refine .inr ⟨failure, .told number event (.ok ()) :: earlier, observer,
          refuses, ?_, List.forall_mem_cons.mpr ⟨rfl, accept⟩⟩
        rw [isCalls, List.cons_append]
  | refused number count failure =>
      exact .inr ⟨failure, [], number, rfl, rfl, List.forall_mem_nil _⟩

theorem Told.exists_record
    {event : Event} {number count : Nat} {answer : Except Failure Unit}
    {calls : List Call}
    (told : Told event number count answer calls) :
    ∀ call ∈ calls, ∃ given, call.record = .told event given := by
  induction told with
  | nobody number => exact List.forall_mem_nil _
  | accepted rest inductionHypothesis =>
      exact List.forall_mem_cons.mpr ⟨⟨.ok (), rfl⟩, inductionHypothesis⟩
  | refused number count failure =>
      exact List.forall_mem_singleton.mpr ⟨.error failure, rfl⟩

/-- The calls that a record stands for, with the given number of observers. -/
inductive Spells (count : Nat) : Record → List Call → Prop
  | frontend {record : Record}
      (untold : ∀ event answer, record ≠ .told event answer) :
      Spells count record [{ record := record }]
  | observers {event : Event} {answer : Except Failure Unit}
      {calls : List Call}
      (told : Told event 0 count answer calls) :
      Spells count (.told event answer) calls

inductive Spelled (count : Nat) : List Record → List Call → Prop
  | nil : Spelled count [] []
  | cons {record : Record} {records : List Record} {group calls : List Call}
      (first : Spells count record group)
      (rest : Spelled count records calls) :
      Spelled count (record :: records) (group ++ calls)

variable {count : Nat} {record : Record} {records later : List Record}
  {group calls : List Call}

theorem Spelled.single
    (spells : Spells count record group) :
    Spelled count [record] group := by
  have spelled := Spelled.cons spells .nil
  rwa [List.append_nil] at spelled

theorem Spelled.append
    {laterCalls : List Call}
    (first : Spelled count records calls)
    (second : Spelled count later laterCalls) :
    Spelled count (records ++ later) (calls ++ laterCalls) := by
  induction first with
  | nil => exact second
  | cons spells _ inductionHypothesis =>
      rw [List.append_assoc]
      exact .cons spells inductionHypothesis

/-- The calls of two lists of records can be told apart. -/
theorem Spelled.exists_append
    (spelled : Spelled count (records ++ later) calls) :
    ∃ earlierCalls laterCalls, calls = earlierCalls ++ laterCalls ∧
      Spelled count records earlierCalls ∧ Spelled count later laterCalls := by
  induction records generalizing calls with
  | nil => exact ⟨[], calls, rfl, .nil, spelled⟩
  | cons record rest inductionHypothesis =>
      cases spelled with
      | @cons _ _ group others first rest =>
          obtain ⟨earlierCalls, laterCalls, rfl, earlier, last⟩ :=
            inductionHypothesis rest
          refine ⟨group ++ earlierCalls, laterCalls, ?_, .cons first earlier, last⟩
          rw [List.append_assoc]

theorem Spelled.exists_cons
    (spelled : Spelled count (record :: records) calls) :
    ∃ group rest, calls = group ++ rest ∧ Spells count record group ∧
      Spelled count records rest := by
  cases spelled with
  | cons first rest => exact ⟨_, _, rfl, first, rest⟩

theorem Spelled.eq_of_single
    (spelled : Spelled count [record] calls) :
    Spells count record calls := by
  cases spelled with
  | cons first rest =>
      cases rest
      rwa [List.append_nil]

/-! ## What calls have in common with their records -/

theorem Spells.eq_frontend
    (spells : Spells count record group)
    (untold : ∀ event answer, record ≠ .told event answer) :
    group = [{ record := record }] := by
  cases spells with
  | frontend _ => rfl
  | observers told => exact absurd rfl (untold _ _)

theorem Spells.eq_observers
    {event : Event}
    (spells : Spells count (.told event (.ok ())) group) :
    group =
      (List.range count).map fun observer => .told observer event (.ok ()) := by
  cases spells with
  | frontend untold => exact absurd rfl (untold _ _)
  | observers told =>
      rcases told.calls_cases with ⟨-, isCalls⟩ | ⟨failure, _, _, isError, _⟩
      · rw [isCalls, List.range_eq_range']
      · cases isError

/-- If telling an event fails, the observers before the one that refuses have
accepted it. -/
theorem Spells.exists_refusal
    {event : Event} {failure : Failure}
    (spells : Spells count (.told event (.error failure)) group) :
    ∃ earlier observer,
      group = earlier ++ [.told observer event (.error failure)] ∧
      ∀ call ∈ earlier, call.record = .told event (.ok ()) := by
  cases spells with
  | frontend untold => exact absurd rfl (untold _ _)
  | observers told =>
      rcases told.calls_cases with ⟨isOk, -⟩ |
        ⟨reason, earlier, observer, isError, isCalls, accept⟩
      · cases isOk
      · cases isError
        exact ⟨earlier, observer, isCalls, accept⟩

theorem smooth_of_forall_eq
    (same : ∀ call ∈ group, call.record = record)
    (ofFrame : record.isOfFrame = true) (works : record.failure? = none) :
    Smooth (group.map Call.record) := by
  intro other belongs
  obtain ⟨call, called, rfl⟩ := List.mem_map.mp belongs
  rw [same call called]
  exact ⟨ofFrame, works⟩

/-- A record of a frame without a failure stands for calls without a failure. -/
theorem Spells.smooth
    (spells : Spells count record group)
    (ofFrame : record.isOfFrame = true) (works : record.failure? = none) :
    Smooth (group.map Call.record) := by
  cases spells with
  | frontend _ => exact smooth_single ofFrame works
  | @observers event answer _ told =>
      cases answer with
      | ok _ =>
          refine smooth_of_forall_eq ?_ ofFrame works
          rw [(Spells.observers told).eq_observers]
          simp [Call.told]
      | error failure => cases works

/-- A record of a frame with a failure stands for calls of which only the last
one fails. -/
theorem Spells.brokenOff
    {failure : Failure}
    (spells : Spells count record group)
    (ofFrame : record.isOfFrame = true)
    (fails : record.failure? = some failure) :
    BrokenOff (group.map Call.record) failure := by
  cases spells with
  | frontend _ => exact .single ofFrame fails
  | @observers event answer _ told =>
      cases answer with
      | ok _ => cases fails
      | error reason =>
          cases fails
          obtain ⟨earlier, observer, isGroup, accept⟩ :=
            (Spells.observers told).exists_refusal
          have alsoOfFrame :
              (Record.told event (.ok ())).isOfFrame = true := by
            cases event <;> exact ofFrame
          have smooth := smooth_of_forall_eq accept alsoOfFrame rfl
          rw [isGroup, List.map_append]
          exact .append smooth (.single ofFrame rfl)

theorem Spelled.smooth
    (spelled : Spelled count records calls) (smooth : Smooth records) :
    Smooth (calls.map Call.record) := by
  induction spelled with
  | nil => exact List.forall_mem_nil _
  | cons spells _ inductionHypothesis =>
      obtain ⟨⟨ofFrame, works⟩, others⟩ := List.forall_mem_cons.mp smooth
      rw [List.map_append]
      exact (spells.smooth ofFrame works).append (inductionHypothesis others)

theorem Spelled.brokenOff
    {failure : Failure}
    (spelled : Spelled count records calls)
    (broken : BrokenOff records failure) :
    BrokenOff (calls.map Call.record) failure := by
  obtain ⟨earlier, latest, rfl, smooth, ofFrame, fails⟩ := broken
  obtain ⟨earlierCalls, group, rfl, spelledEarlier, spelledLatest⟩ :=
    spelled.exists_append
  have last := spelledLatest.eq_of_single.brokenOff ofFrame fails
  rw [List.map_append]
  exact last.append (spelledEarlier.smooth smooth)

/-- The calls read the keys that the records have. -/
theorem Spelled.keys
    (spelled : Spelled count records calls) :
    (calls.map Call.record).filterMap Record.keys? =
      records.filterMap Record.keys? := by
  induction spelled with
  | nil => rfl
  | @cons record _ group _ spells _ inductionHypothesis =>
      have sameKeys :
          (group.map Call.record).filterMap Record.keys? =
            record.keys?.toList := by
        cases spells with
        | frontend _ => cases isKeys : record.keys? <;> simp [isKeys]
        | observers told =>
            refine List.filterMap_eq_nil_iff.mpr ?_
            intro other belongs
            obtain ⟨call, called, rfl⟩ := List.mem_map.mp belongs
            obtain ⟨answer, isTold⟩ := told.exists_record call called
            rw [isTold]
            rfl
      rw [List.map_append, List.filterMap_append, inductionHypothesis, sameKeys]
      cases isKeys : record.keys? <;> simp [isKeys]

/-! ## The calls of a session -/

/-- The recorded actions whose calls are those that their records stand for. -/
def spelling {σ : Type} (count : Nat) :
    ActionClass (StateT (List Record) (StateT (List Call) (StateM σ))) where
  Holds action := ∀ (records : List Record) (calls : List Call) (world : σ),
    Spelled count records calls →
      let output := ((action.run records).run calls).run world
      Spelled count output.1.1.2 output.1.2
  ofPure _ _ _ _ spelled := spelled
  ofBind first next records calls world spelled :=
    next _ _ _ _ (first records calls world spelled)

private theorem within_spelling
    {σ : Type} (ensemble : Ensemble (StateM σ)) :
    ensemble.devices.recording.Within (spelling ensemble.observers.length) where
  setup _ _ _ spelled := spelled.append (.single (.frontend (by simp)))
  readKeys _ _ _ spelled := spelled.append (.single (.frontend (by simp)))
  draw _ _ _ _ spelled := spelled.append (.single (.frontend (by simp)))
  cleanup _ _ _ spelled := spelled.append (.single (.frontend (by simp)))
  now _ _ _ spelled := spelled
  sleep _ _ _ _ spelled := spelled
  notify event records calls world spelled := by
    obtain ⟨added, isAdded, told⟩ :=
      told_of_tell event 0 ensemble.observers calls world
    have extended := spelled.append (.single (.observers told))
    rw [← isAdded] at extended
    exact extended

private theorem exists_spelled_of_run
    {σ : Type} (ensemble : Ensemble (StateM σ)) {config : Config}
    {limit : Option Int} {progress : Bool} {patience : Nat} {session : Session}
    {world after : σ} {result : Result} {calls : List Call}
    (ran :
      ((session.run ensemble.devices config limit progress patience).run
          []).run world = ((result, calls), after))
    (finished : limit = none → result.ending ≠ .unfinished) :
    ∃ records, Spelled ensemble.observers.length records calls ∧
      ((∃ failure, result.ending = .failed failure ∧
          Aborted config records failure) ∨
        ∃ played final elapsed,
          Played config limit 0 session played final result.ending ∧
          result.session = final.timed elapsed ∧
          records =
            openingRecords config ++ played ++ .released :: result.farewell) := by
  obtain ⟨records, recorded, course⟩ :=
    (follows_run ensemble.devices config limit progress patience
      session).exists_added_above [] [] world
  have spelled :=
    holds_run (within_spelling ensemble) config limit progress patience session
      [] [] world .nil
  simp only [ran, List.nil_append] at recorded course
  simp only [recorded] at spelled
  refine ⟨records, spelled, ?_⟩
  rcases course with aborted | ⟨unlimited, unfinished⟩ | played
  · exact .inl aborted
  · exact absurd unfinished (finished unlimited)
  · exact .inr played

/-- The calls of a run that got as far as its frames. -/
theorem Spelled.exists_framed
    {config : Config} {played farewell : List Record}
    (spelled :
      Spelled count
        (openingRecords config ++ played ++ .released :: farewell) calls) :
    ∃ during last,
      calls =
        (List.range count).map (fun observer =>
          .told observer (.started config.entries) (.ok ())) ++
          { record := .prepared (.ok ()) } :: during ++
          { record := .released } :: last ∧
      Spelled count played during ∧ Spelled count farewell last := by
  obtain ⟨front, back, rfl, spelledFront, spelledBack⟩ := spelled.exists_append
  obtain ⟨opening, during, rfl, spelledOpening, spelledDuring⟩ :=
    spelledFront.exists_append
  obtain ⟨start, setup, rfl, started, spelledSetup⟩ :=
    spelledOpening.exists_cons
  obtain ⟨release, last, rfl, released, spelledLast⟩ := spelledBack.exists_cons
  refine ⟨during, last, ?_, spelledDuring, spelledLast⟩
  rw [started.eq_observers,
    spelledSetup.eq_of_single.eq_frontend (by simp),
    released.eq_frontend (by simp)]
  simp

private theorem Spelled.record_mem
    {call : Call}
    (spelled : Spelled count records calls) (called : call ∈ calls)
    (untold : ∀ event answer, call.record ≠ .told event answer) :
    call.record ∈ records := by
  induction spelled with
  | nil => cases called
  | cons spells _ inductionHypothesis =>
      rcases List.mem_append.mp called with inGroup | inRest
      · cases spells with
        | frontend _ =>
            rw [List.mem_singleton.mp inGroup]
            exact List.mem_cons_self
        | observers told =>
            obtain ⟨answer, isTold⟩ := told.exists_record call inGroup
            exact absurd isTold (untold _ _)
      · exact List.mem_cons_of_mem _ (inductionHypothesis inRest)

theorem forall_of_smooth
    (smooth : Smooth (calls.map Call.record)) :
    ∀ call ∈ calls,
      call.record.isOfFrame = true ∧ call.record.failure? = none :=
  List.forall_mem_map.mp smooth

private theorem exists_last_of_brokenOff
    {failure : Failure}
    (broken : BrokenOff (calls.map Call.record) failure) :
    (∀ call ∈ calls, call.record.isOfFrame = true) ∧
      ∃ earlier last, calls = earlier ++ [last] ∧
        last.record.failure? = some failure ∧
        ∀ call ∈ earlier, call.record.failure? = none := by
  obtain ⟨records, latest, split, smooth, ofFrame, fails⟩ := broken
  obtain ⟨earlier, lasts, rfl, rfl, isLatest⟩ := List.map_eq_append_iff.mp split
  obtain ⟨last, rfl, rfl⟩ := List.map_eq_singleton_iff.mp isLatest
  have works := forall_of_smooth smooth
  refine ⟨?_, earlier, last, rfl, fails, fun call called => (works call called).2⟩
  intro call called
  rcases List.mem_append.mp called with inEarlier | isLast
  · exact (works call inEarlier).1
  · rw [List.mem_singleton.mp isLast]
    exact ofFrame

/-- Once the front-end has been set up, it is released exactly once, after all
its other calls.  If a call fails, nothing is called between it and the release,
the run fails in the same way, and no observer is told of the end; the same holds
if a cycle fails, and then no call does.  Otherwise every observer is told of the
end exactly once, after the release. -/
theorem released_once
    {σ : Type} (ensemble : Ensemble (StateM σ)) (config : Config)
    (limit : Option Int) (progress : Bool) (patience : Nat) (session : Session)
    {world after : σ} {result : Result} {calls : List Call}
    (ran :
      ((session.run ensemble.devices config limit progress patience).run
          []).run world = ((result, calls), after))
    (finished : limit = none → result.ending ≠ .unfinished)
    (prepared : { record := .prepared (.ok ()) } ∈ calls)
    (endAccepted : ∀ call ∈ calls, ∀ metrics failure,
      call.record ≠ .told (.ended metrics) (.error failure)) :
    ∃ during farewell,
      calls =
        (List.range ensemble.observers.length).map (fun observer =>
          .told observer (.started config.entries) (.ok ())) ++
          { record := .prepared (.ok ()) } :: during ++
          { record := .released } :: farewell ∧
      (∀ call ∈ during, call.record.isOfFrame = true) ∧
      ((∃ failure, result.ending = .failed failure ∧ farewell = [] ∧
          ((∃ earlier last, during = earlier ++ [last] ∧
              last.record.failure? = some failure ∧
              ∀ call ∈ earlier, call.record.failure? = none) ∨
            (∀ call ∈ during, call.record.failure? = none) ∧
              endingAfter
                (outcomes config
                  (during.filterMap fun call => call.record.keys?)
                  session.machine) = .failed failure)) ∨
        (∀ failure, result.ending ≠ .failed failure) ∧
          (∀ call ∈ during, call.record.failure? = none) ∧
          farewell =
            (List.range ensemble.observers.length).map fun observer =>
              .told observer
                (.ended (result.session.stats.finalMetrics
                  result.session.machine.display)) (.ok ())) := by
  obtain ⟨records, spelled, course⟩ :=
    exists_spelled_of_run ensemble ran finished
  have isPrepared : .prepared (.ok ()) ∈ records :=
    spelled.record_mem prepared (by simp)
  rcases course with ⟨failure, failed, aborted⟩ |
    ⟨played, final, elapsed, frames, isSession, rfl⟩
  · cases aborted with
    | rate _ => simp at isPrepared
    | start => simp at isPrepared
    | setup => simp at isPrepared
    | frame broken =>
        obtain ⟨during, last, isCalls, spelledDuring, spelledLast⟩ :=
          spelled.exists_framed
        obtain ⟨ofFrames, broke⟩ :=
          exists_last_of_brokenOff (spelledDuring.brokenOff broken)
        cases spelledLast
        exact ⟨during, [], isCalls, ofFrames,
          .inl ⟨failure, failed, rfl, .inl broke⟩⟩
    | farewell played metrics =>
        obtain ⟨during, last, isCalls, -, spelledLast⟩ := spelled.exists_framed
        obtain ⟨earlier, observer, rfl, -⟩ :=
          spelledLast.eq_of_single.exists_refusal
        have called :
            Call.told observer (.ended metrics) (.error failure) ∈ calls := by
          simp [isCalls]
        exact absurd rfl (endAccepted _ called metrics failure)
  · obtain ⟨during, last, isCalls, spelledDuring, spelledLast⟩ :=
      spelled.exists_framed
    have smooth := forall_of_smooth (spelledDuring.smooth frames.smooth)
    have works : ∀ call ∈ during, call.record.failure? = none :=
      fun call called => (smooth call called).2
    have sameKeys := spelledDuring.keys
    rw [List.filterMap_map] at sameKeys
    have ends := frames.endingAfter_framesSeen
    rw [framesSeen, ← sameKeys] at ends
    refine ⟨during, last, isCalls, fun call called => (smooth call called).1, ?_⟩
    cases ending : result.ending with
    | failed failure =>
        rw [ending] at ends
        simp only [Result.farewell, ending] at spelledLast
        cases spelledLast
        exact .inl ⟨failure, rfl, rfl, .inr ⟨works, ends⟩⟩
    | complete | stopped | halted | unfinished =>
        simp only [Result.farewell, ending] at spelledLast
        refine .inr ⟨by simp, works, ?_⟩
        exact spelledLast.eq_of_single.eq_observers

/-- A front-end that works, and two observers of which the second one cannot
take a fault. -/
def fragile : Ensemble (StateM Unit) where
  frontend := idle.frontend
  now := idle.now
  sleep := idle.sleep
  observers :=
    [fun _ => pure (.ok ()),
      fun
        | .fault _ _ => pure (.error (.device "lost"))
        | _ => pure (.ok ())]

def fragileRun : (Result × List Call) × Unit :=
  ((run fragile.devices { fps := 0, instructionsPerFrame := 4 } (some 5) false 0
    { machine := strayReturn }).run []).run ()

def Call.isSetUp : Call → Bool
  | ⟨.prepared (.ok ()), none⟩ => true
  | _ => false

def Call.isRefusedEnd : Call → Bool
  | ⟨.told (.ended _) (.error _), _⟩ => true
  | _ => false

private theorem eq_of_isSetUp
    {call : Call}
    (isSetUp : call.isSetUp = true) :
    call = { record := .prepared (.ok ()) } := by
  unfold Call.isSetUp at isSetUp
  split at isSetUp
  · rfl
  · cases isSetUp

/-- The second observer fails at the first fault.  The front-end is released and
no observer is told of the end. -/
theorem released_once_fragile :
    fragileRun.1.1.ending = .failed (.device "lost") ∧
      ∃ during,
        fragileRun.1.2 =
          [.told 0 (.started (Config.entries
              { fps := 0, instructionsPerFrame := 4 })) (.ok ()),
            .told 1 (.started (Config.entries
              { fps := 0, instructionsPerFrame := 4 })) (.ok ()),
            { record := .prepared (.ok ()) }] ++ during ++
            [{ record := .released }] ∧
        ∀ call ∈ during, call.record.isOfFrame = true := by
  have failed : fragileRun.1.1.ending = .failed (.device "lost") := by
    decide +kernel
  have someSetUp : fragileRun.1.2.any Call.isSetUp = true := by decide +kernel
  have noRefusal : fragileRun.1.2.any Call.isRefusedEnd = false := by
    decide +kernel
  rcases ran : fragileRun with ⟨⟨result, calls⟩, after⟩
  rw [ran] at failed someSetUp noRefusal
  obtain ⟨setUp, called, isSetUp⟩ := List.any_eq_true.mp someSetUp
  rw [eq_of_isSetUp isSetUp] at called
  have endAccepted : ∀ call ∈ calls, ∀ metrics failure,
      call.record ≠ .told (.ended metrics) (.error failure) := by
    intro call isCall metrics failure isRefused
    have accepts := List.any_eq_false.mp noRefusal call isCall
    obtain ⟨record, observer⟩ := call
    cases isRefused
    simp [Call.isRefusedEnd] at accepts
  obtain ⟨during, farewell, isCalls, ofFrames, course⟩ :=
    released_once fragile { fps := 0, instructionsPerFrame := 4 } (some 5) false
      0 { machine := strayReturn } ran (by simp) called endAccepted
  rcases course with ⟨failure, _, noFarewell, _⟩ | ⟨noFailure, _⟩
  · refine ⟨failed, during, ?_, ofFrames⟩
    rw [noFarewell] at isCalls
    exact isCalls
  · exact absurd failed (noFailure _)

end Session

end Chip8
