import Mathlib.Data.List.Basic
import Chip8.Proofs.VideoImages

/-!
# The frames of a video

A video has one image for each of its screens.  Without a window all images are
written.  In a window each image is written and shown before any key is waited
for, so the frame in which a key ends the video is still recorded, and a pause
lies between two frames.

The frames of a window last equally long, so behind its keys a frame sleeps.  A
sleep can be too long for the studio, and then the video ends with that frame.
-/

namespace Chip8.Video

/-! ## Runs in a scripted studio -/

abbrev Script (α : Type) := ExceptT Problem (StateM Reel) α

section

variable {α β : Type} {reel after : Reel}

theorem run_bind_of_ok
    {script : Script α} {value : α}
    (isRun : script.run.run reel = (.ok value, after))
    (next : α → Script β) :
    (script >>= next).run.run reel = (next value).run.run after := by
  rw [ExceptT.run_bind, StateT.run_bind, isRun]
  rfl

theorem run_bind_of_error
    {script : Script α} {problem : Problem}
    (isRun : script.run.run reel = (.error problem, after))
    (next : α → Script β) :
    (script >>= next).run.run reel = (.error problem, after) := by
  rw [ExceptT.run_bind, StateT.run_bind, isRun]
  rfl

theorem run_perform_of_none
    {event : Event} (done : reel.fails reel.events event = none) :
    (Studio.attempt (Reel.studio.perform event)).run.run reel =
      (.ok (), { reel with events := reel.events ++ [event] }) := by
  change
    ((reel.perform event).1.mapError Problem.failure, (reel.perform event).2) =
      _
  rw [Reel.perform, done]
  rfl

theorem run_perform_of_some
    {event : Event} {failure : Failure}
    (fails : reel.fails reel.events event = some failure) :
    (Studio.attempt (Reel.studio.perform event)).run.run reel =
      (.error (.failure failure), reel) := by
  change
    ((reel.perform event).1.mapError Problem.failure, (reel.perform event).2) =
      _
  rw [Reel.perform, fails]
  rfl

/-- Events that a studio does not fail at are done one after the other. -/
theorem run_performAll_of_none
    {events : List Event}
    (done : ∀ event ∈ events, ∀ before, reel.fails before event = none) :
    (Reel.studio.performAll events).run.run reel =
      (.ok (), { reel with events := reel.events ++ events }) := by
  induction events generalizing reel with
  | nil =>
      rw [List.append_nil]
      rfl
  | cons event rest inductionHypothesis =>
      obtain ⟨first, others⟩ := List.forall_mem_cons.mp done
      have later :
          (Reel.studio.performAll rest).run.run
              { reel with events := reel.events ++ [event] } = _ :=
        inductionHypothesis others
      rw [Studio.performAll, run_bind_of_ok (run_perform_of_none (first _)),
        later, List.append_assoc]
      rfl

theorem run_sleep_of_allowed
    {seconds : Float} (allowed : ¬ reel.refuses seconds = true) :
    (Studio.attempt (Reel.studio.sleep seconds)).run.run reel =
      (.ok (), { reel with clock := reel.clock.sleep seconds }) := by
  change
    ((reel.sleep seconds).1.mapError Problem.failure, (reel.sleep seconds).2) =
      _
  rw [Reel.sleep, if_neg allowed]
  rfl

theorem run_sleep_of_refused
    {seconds : Float} (refused : reel.refuses seconds = true) :
    (Studio.attempt (Reel.studio.sleep seconds)).run.run reel =
      (.error (.failure .sleepTooLong), reel) := by
  change
    ((reel.sleep seconds).1.mapError Problem.failure, (reel.sleep seconds).2) =
      _
  rw [Reel.sleep, if_pos refused]
  rfl

end

/-! ## A studio that does what it is asked for -/

/-- A studio in which only sleeps can fail, behind some events. -/
def Reel.willing (refuses : Float → Bool) (events : List Event)
    (clock : Clock) : Reel :=
  { events := events, clock := clock, refuses := refuses }

section

variable {refuses : Float → Bool} {events : List Event} {clock : Clock}

theorem run_perform
    {α : Type} (event : Event) (next : Script α) :
    (Studio.attempt (Reel.studio.perform event) >>= fun _ => next).run.run
        (.willing refuses events clock) =
      next.run.run (.willing refuses (events ++ [event]) clock) :=
  run_bind_of_ok (run_perform_of_none rfl) _

theorem run_now :
    (ExceptT.lift Reel.studio.now : Script Float).run.run
        (.willing refuses events clock) =
      (.ok clock.read.1, .willing refuses events clock.read.2) :=
  rfl

theorem run_performAll (more : List Event) :
    (Reel.studio.performAll more).run.run (.willing refuses events clock) =
      (.ok (), .willing refuses (events ++ more) clock) :=
  run_performAll_of_none fun _ _ _ => rfl

/-- Behind a frame the video sleeps for what is left of its time, if that is not
too long. -/
theorem run_rest
    (refuses : Float → Bool) (events : List Event) (clock : Clock)
    (options : Options) (start : Float) :
    ∃ later,
      (Reel.studio.rest options start).run.run (.willing refuses events clock) =
          (.ok (), .willing refuses events later) ∨
        (Reel.studio.rest options start).run.run
              (.willing refuses events clock) =
            (.error (.failure .sleepTooLong), .willing refuses events later) ∧
          ∃ stop, refuses (1 / options.fps - (stop - start)) = true := by
  rw [Studio.rest, run_bind_of_ok run_now]
  by_cases isSpare : 0 < 1 / options.fps - (clock.read.1 - start)
  · rw [if_pos isSpare]
    by_cases refused :
        refuses (1 / options.fps - (clock.read.1 - start)) = true
    · exact ⟨_, .inr ⟨run_sleep_of_refused refused, _, refused⟩⟩
    · exact ⟨_, .inl (run_sleep_of_allowed refused)⟩
  · rw [if_neg isSpare]
    exact ⟨_, .inl rfl⟩

end

/-! ## The waits of a frame -/

structure Wait where
  milliseconds : Nat
  key : Int

def Wait.event (wait : Wait) : Event := .await wait.milliseconds wait.key

def Wait.short (key : Int) : Wait := ⟨1, key⟩

def Wait.long (key : Int) : Wait := ⟨30, key⟩

/-- The waits read a list of keys one after the other.  Behind its end a short
wait finds no key and a long one finds `q`. -/
def Delivers (keys : List Int) (waited : List Wait) : Prop :=
  ∀ (index : Nat) (wait : Wait), waited[index]? = some wait →
    wait.key = keys[index]?.getD (if wait.milliseconds = 1 then -1 else 113)

theorem Delivers.append
    {keys : List Int} {first second : List Wait}
    (one : Delivers keys first)
    (other : Delivers (keys.drop first.length) second) :
    Delivers keys (first ++ second) := by
  intro index wait isWait
  by_cases inside : index < first.length
  · rw [List.getElem?_append_left inside] at isWait
    exact one index wait isWait
  · rw [List.getElem?_append_right (by omega)] at isWait
    have read := other _ wait isWait
    rwa [List.getElem?_drop, Nat.add_sub_cancel' (by omega)] at read

/-- A wait takes the next key; without one a short wait gets no key and a pause
is ended. -/
theorem delivers_single_iff
    {keys : List Int} {wait : Wait} :
    Delivers keys [wait] ↔
      wait.key = keys.head?.getD (if wait.milliseconds = 1 then -1 else 113) := by
  rw [List.head?_eq_getElem?]
  constructor
  · intro delivers
    exact delivers 0 wait rfl
  · intro read index other isOther
    cases index with
    | zero =>
        cases isOther
        exact read
    | succ index => simp at isOther

/-- The waits of a pause: keys that do nothing, and one that ends it. -/
inductive IsPause : List Wait → Prop
  | intro (idle : List Int) (last : Int)
      (others : ∀ key ∈ idle, isSpace key = false ∧ isQuit key = false)
      (ends : isSpace last = true ∨ isQuit last = true) :
      IsPause (idle.map Wait.long ++ [.long last])

/-- The waits behind a frame: a short one and, if it reads a space, those of a
pause. -/
inductive OfFrame : List Wait → Prop
  | short {key : Int} (goesOn : isSpace key = false) : OfFrame [.short key]
  | paused {key : Int} {waited : List Wait} (space : isSpace key = true)
      (pause : IsPause waited) : OfFrame (.short key :: waited)

def Quits (waited : List Wait) : Prop := ∃ wait ∈ waited, isQuit wait.key = true

@[simp]
theorem quits_cons_iff
    {wait : Wait} {waited : List Wait} :
    Quits (wait :: waited) ↔ isQuit wait.key = true ∨ Quits waited := by
  simp [Quits]

@[simp]
theorem quits_single_iff
    {wait : Wait} :
    Quits [wait] ↔ isQuit wait.key = true := by
  simp [Quits]

theorem isQuit_of_isSpace
    {key : Int}
    (space : isSpace key = true) :
    isQuit key = false := by
  simp only [isSpace, decide_eq_true_eq] at space
  simp [isQuit, space]

instance (waited : List Wait) : Decidable (Quits waited) :=
  inferInstanceAs (Decidable (∃ wait ∈ waited, isQuit wait.key = true))

private theorem run_pause
    (refuses : Float → Bool) (events : List Event) (clock : Clock)
    (keys : List Int) :
    ∃ waited,
      (Reel.studio.pause keys).run.run (.willing refuses events clock) =
          (.ok (keys.drop waited.length, decide (Quits waited)),
            .willing refuses (events ++ waited.map Wait.event) clock) ∧
        IsPause waited ∧ Delivers keys waited := by
  induction keys generalizing events with
  | nil =>
      refine ⟨[.long 113], ?_, .intro [] 113 (by simp) (.inr rfl),
        delivers_single_iff.mpr rfl⟩
      rw [Studio.pause, run_perform,
        decide_eq_true (quits_single_iff.mpr rfl)]
      rfl
  | cons key rest inductionHypothesis =>
      have read : Delivers (key :: rest) [.long key] :=
        delivers_single_iff.mpr rfl
      by_cases space : isSpace key = true
      · have goesOn : ¬ Quits [.long key] := by
          rw [quits_single_iff, Wait.long, isQuit_of_isSpace space]
          simp
        refine ⟨[.long key], ?_, .intro [] key (by simp) (.inl space), read⟩
        rw [Studio.pause, run_perform, if_pos space, decide_eq_false goesOn]
        rfl
      by_cases quit : isQuit key = true
      · refine ⟨[.long key], ?_, .intro [] key (by simp) (.inr quit), read⟩
        rw [Studio.pause, run_perform, if_neg space, if_pos quit,
          decide_eq_true (quits_single_iff.mpr quit)]
        rfl
      · obtain ⟨waited, isRun, isPause, delivers⟩ :=
          inductionHypothesis (events ++ [.await 30 key])
        have sameEnd : Quits (.long key :: waited) ↔ Quits waited := by
          rw [quits_cons_iff]
          exact or_iff_right quit
        refine ⟨.long key :: waited, ?_, ?_, read.append delivers⟩
        · rw [Studio.pause, run_perform, if_neg space, if_neg quit, isRun,
            decide_eq_decide.mpr sameEnd, List.append_assoc]
          rfl
        · obtain ⟨idle, last, others, ends⟩ := isPause
          rw [Bool.not_eq_true] at space quit
          exact .intro (key :: idle) last
            (List.forall_mem_cons.mpr ⟨⟨space, quit⟩, others⟩) ends

private theorem run_waits
    (refuses : Float → Bool) (events : List Event) (clock : Clock)
    (keys : List Int) :
    ∃ waited,
      (Reel.studio.waits keys).run.run (.willing refuses events clock) =
          (.ok (keys.drop waited.length, decide (Quits waited)),
            .willing refuses (events ++ waited.map Wait.event) clock) ∧
        OfFrame waited ∧ Delivers keys waited := by
  have read : Delivers keys [.short (keys.headD noKey)] :=
    delivers_single_iff.mpr List.headD_eq_head?_getD
  have left : keys.tail = keys.drop 1 := List.drop_one.symm
  rw [Studio.waits, run_perform]
  generalize keys.headD noKey = key at read ⊢
  by_cases quit : isQuit key = true
  · have notSpace : isSpace key = false := by
      rw [← Bool.not_eq_true]
      intro space
      rw [isQuit_of_isSpace space] at quit
      cases quit
    refine ⟨[.short key], ?_, .short notSpace, read⟩
    rw [if_pos quit, left, decide_eq_true (quits_single_iff.mpr quit)]
    rfl
  by_cases space : isSpace key = true
  · obtain ⟨waited, isRun, isPause, delivers⟩ :=
      run_pause refuses (events ++ [.await 1 key]) clock keys.tail
    have sameEnd : Quits (.short key :: waited) ↔ Quits waited := by
      rw [quits_cons_iff]
      exact or_iff_right quit
    refine ⟨.short key :: waited, ?_, .paused space isPause,
      read.append (left ▸ delivers)⟩
    rw [if_neg quit, if_pos space, isRun, decide_eq_decide.mpr sameEnd, left,
      List.drop_drop, List.append_assoc, Nat.add_comm]
    rfl
  · have goesOn : ¬ Quits [.short key] := fun quits =>
      quit (quits_single_iff.mp quits)
    rw [Bool.not_eq_true] at space
    refine ⟨[.short key], ?_, .short space, read⟩
    rw [if_neg quit, space, if_neg Bool.false_ne_true, left,
      decide_eq_false goesOn]
    rfl

/-! ## The frames in a window -/

structure Round where
  picture : Picture
  /-- The text on the picture in the window. -/
  text : String
  waited : List Wait

/-- What happens in a frame: its picture is written and shown, and then keys are
waited for. -/
def Round.events (round : Round) : List Event :=
  [.write round.picture, .caption round.text, .present round.picture] ++
    round.waited.map Wait.event

/-- The rounds show a prefix of the images and read the keys in their order, and
no key ends the video before the last of them. -/
structure Screened (images : List Picture) (keys : List Int)
    (rounds : List Round) : Prop where
  ofPrefix : rounds.map Round.picture = images.take rounds.length
  length_le : rounds.length ≤ images.length
  waits : ∀ round ∈ rounds, OfFrame round.waited
  goesOn : ∀ round ∈ rounds.dropLast, ¬ Quits round.waited
  delivers : Delivers keys (rounds.flatMap Round.waited)

/-- A key ends the video in its last round, or all images have been shown. -/
def Ends (images : List Picture) (rounds : List Round) : Prop :=
  rounds.length < images.length → ∃ last ∈ rounds.getLast?, Quits last.waited

/-- The video stops behind its last round, in which no key ends it. -/
def Stops (rounds : List Round) : Prop :=
  ∃ last ∈ rounds.getLast?, ¬ Quits last.waited

private theorem screened_nil (keys : List Int) : Screened [] keys [] where
  ofPrefix := rfl
  length_le := Nat.le_refl 0
  waits := by simp
  goesOn := by simp
  delivers := by simp [Delivers]

/-- The video has one round only. -/
theorem screened_single
    {keys : List Int} (round : Round) (rest : List Picture)
    (ofFrame : OfFrame round.waited) (delivers : Delivers keys round.waited) :
    Screened (round.picture :: rest) keys [round] where
  ofPrefix := by simp
  length_le := by simp
  waits := List.forall_mem_singleton.mpr ofFrame
  goesOn := by simp
  delivers := by simpa using delivers

/-- The video goes on behind its first round. -/
theorem Screened.cons
    {images : List Picture} {keys : List Int} (round : Round)
    {rounds : List Round}
    (ofFrame : OfFrame round.waited) (delivers : Delivers keys round.waited)
    (goesOn : ¬ Quits round.waited)
    (later : Screened images (keys.drop round.waited.length) rounds) :
    Screened (round.picture :: images) keys (round :: rounds) where
  ofPrefix := by simp [later.ofPrefix]
  length_le := by simpa using later.length_le
  waits := List.forall_mem_cons.mpr ⟨ofFrame, later.waits⟩
  goesOn := by
    cases rounds with
    | nil => simp
    | cons second others =>
        rw [List.dropLast_cons_cons]
        exact List.forall_mem_cons.mpr ⟨goesOn, later.goesOn⟩
  delivers := delivers.append later.delivers

theorem exists_getLast?_cons
    {round : Round} {rounds : List Round} {fact : Round → Prop}
    (later : ∃ last ∈ rounds.getLast?, fact last) :
    ∃ last ∈ (round :: rounds).getLast?, fact last := by
  obtain ⟨last, isLast, holds⟩ := later
  refine ⟨last, ?_, holds⟩
  rw [List.getLast?_cons, isLast]
  rfl

theorem Ends.cons
    {images : List Picture} {rounds : List Round} (picture : Picture)
    (round : Round) (later : Ends images rounds) :
    Ends (picture :: images) (round :: rounds) := by
  intro shorter
  exact exists_getLast?_cons (later (by simpa using shorter))

section

variable (refuses : Float → Bool) {options : Options}

private theorem exists_rounds
    (shows : options.display = true)
    (named : (options.filename.getD "").isEmpty = false)
    (total number : Nat) (images : List Picture) (keys : List Int)
    (events : List Event) (clock : Clock) :
    ∃ outcome rounds later,
      (Reel.studio.playFrames options total number images keys).run.run
          (.willing refuses events clock) =
        (outcome,
          .willing refuses (events ++ rounds.flatMap Round.events) later) ∧
      Screened images keys rounds ∧
      (outcome = .ok () ∧ Ends images rounds ∨
        outcome = .error (.failure .sleepTooLong) ∧ Stops rounds ∧
          ∃ start stop, refuses (1 / options.fps - (stop - start)) = true) := by
  induction images generalizing number keys events clock with
  | nil =>
      refine ⟨.ok (), [], clock, ?_, screened_nil keys, .inl ⟨rfl, ?_⟩⟩
      · rw [List.flatMap_nil, List.append_nil]
        rfl
      · intro shorter
        cases shorter
  | cons picture rest inductionHypothesis =>
      obtain ⟨waited, isRun, ofFrame, delivers⟩ :=
        run_waits refuses
          (events ++
            [.write picture, .caption (captionText number total),
              .present picture])
          clock.read.2 keys
      let round : Round :=
        { picture := picture
          text := captionText number total
          waited := waited }
      have isEvents :
          events ++
              [.write picture, .caption (captionText number total),
                .present picture] ++ waited.map Wait.event =
            events ++ round.events :=
        List.append_assoc ..
      rw [isEvents] at isRun
      -- the frame up to its last wait
      have isWanted :
          wanted options [.write picture]
              [.caption (captionText number total), .present picture] =
            [.write picture, .caption (captionText number total),
              .present picture] := by
        simp [wanted, shows, named]
      rw [Studio.playFrames, run_bind_of_ok run_now, isWanted,
        run_bind_of_ok (run_performAll _), if_pos shows, run_bind_of_ok isRun]
      by_cases quits : Quits waited
      · refine ⟨.ok (), [round], clock.read.2, ?_,
          screened_single round rest ofFrame delivers,
          .inl ⟨rfl, fun _ => ⟨round, rfl, quits⟩⟩⟩
        simp only [decide_eq_true quits, if_true, List.flatMap_singleton]
        rfl
      simp only [decide_eq_false quits, Bool.false_eq_true, if_false]
      obtain ⟨stopped, goesOn | ⟨refused, stop, isRefused⟩⟩ :=
        run_rest refuses (events ++ round.events) clock.read.2 options
          clock.read.1
      · obtain ⟨outcome, rounds, later, isPlayed, screened, ends⟩ :=
          inductionHypothesis (number + 1) (keys.drop waited.length)
            (events ++ round.events) stopped
        refine ⟨outcome, round :: rounds, later, ?_,
          .cons round ofFrame delivers quits screened, ?_⟩
        · rw [List.flatMap_cons, ← List.append_assoc, ← isPlayed]
          exact run_bind_of_ok goesOn _
        · rcases ends with ⟨isOk, ends⟩ | ⟨isError, stops, refusal⟩
          · exact .inl ⟨isOk, ends.cons picture round⟩
          · exact .inr ⟨isError, exists_getLast?_cons stops, refusal⟩
      · refine ⟨_, [round], stopped, ?_,
          screened_single round rest ofFrame delivers,
          .inr ⟨rfl, ⟨round, rfl, quits⟩, _, stop, isRefused⟩⟩
        rw [List.flatMap_singleton]
        exact run_bind_of_error refused _

private theorem run_playFrames_without_window
    (hidden : options.display = false)
    (named : (options.filename.getD "").isEmpty = false)
    (total number : Nat) (images : List Picture) (keys : List Int)
    (events : List Event) (clock : Clock) :
    ∃ later,
      (Reel.studio.playFrames options total number images keys).run.run
          (.willing refuses events clock) =
        (.ok (), .willing refuses (events ++ images.map Event.write) later) := by
  induction images generalizing number events clock with
  | nil =>
      refine ⟨clock, ?_⟩
      rw [List.map_nil, List.append_nil]
      rfl
  | cons picture rest inductionHypothesis =>
      obtain ⟨later, isRun⟩ :=
        inductionHypothesis (number + 1) (events ++ [.write picture])
          clock.read.2
      refine ⟨later, ?_⟩
      have isWanted :
          wanted options [.write picture]
              [.caption (captionText number total), .present picture] =
            [.write picture] := by
        simp [wanted, hidden, named]
      rw [Studio.playFrames, run_bind_of_ok run_now, isWanted,
        run_bind_of_ok (run_performAll _), hidden,
        if_neg Bool.false_ne_true, isRun, List.append_assoc]
      rfl

end

/-! ## The log -/

def Event.written? : Event → Option Picture
  | .write picture => some picture
  | _ => none

def Event.shown? : Event → Option Picture
  | .present picture => some picture
  | _ => none

private theorem written_rounds (rounds : List Round) :
    (rounds.flatMap Round.events).filterMap Event.written? =
      rounds.map Round.picture := by
  have silent (waited : List Wait) :
      (waited.map Wait.event).filterMap Event.written? = [] := by
    simp [List.filterMap_eq_nil_iff, Wait.event, Event.written?]
  induction rounds with
  | nil => rfl
  | cons round rest inductionHypothesis =>
      rw [List.flatMap_cons, List.filterMap_append, inductionHypothesis,
        Round.events, List.filterMap_append, silent]
      rfl

private theorem shown_rounds (rounds : List Round) :
    (rounds.flatMap Round.events).filterMap Event.shown? =
      rounds.map Round.picture := by
  have silent (waited : List Wait) :
      (waited.map Wait.event).filterMap Event.shown? = [] := by
    simp [List.filterMap_eq_nil_iff, Wait.event, Event.shown?]
  induction rounds with
  | nil => rfl
  | cons round rest inductionHypothesis =>
      rw [List.flatMap_cons, List.filterMap_append, inductionHypothesis,
        Round.events, List.filterMap_append, silent]
      rfl

/-- Behind every space that a short wait reads there are only long waits, up to a
further space or a key that ends the video. -/
def PausesEnd (events : List Event) : Prop :=
  ∀ before key after, events = before ++ .await 1 key :: after →
    isSpace key = true →
      ∃ waited rest, IsPause waited ∧ after = waited.map Wait.event ++ rest

/-- Pauses that end in each part of a list end in the whole list. -/
theorem PausesEnd.append
    {first second : List Event}
    (one : PausesEnd first) (other : PausesEnd second) :
    PausesEnd (first ++ second) := by
  intro before key after split space
  rcases List.append_eq_append_iff.mp split with
    ⟨between, _, isSecond⟩ | ⟨between, isFirst, isRest⟩
  · exact other between key after isSecond space
  · cases between with
    | nil =>
        rw [List.nil_append] at isRest
        exact other [] key after isRest.symm space
    | cons event tail =>
        rw [List.cons_append] at isRest
        obtain ⟨rfl, rfl⟩ := List.cons.inj isRest
        obtain ⟨waited, rest, isPause, isTail⟩ := one before key tail isFirst space
        exact ⟨waited, rest ++ second, isPause, by
          rw [isTail, List.append_assoc]⟩

theorem pausesEnd_of_no_waits
    {events : List Event}
    (noWaits : ∀ event ∈ events, ∀ milliseconds key,
      event ≠ .await milliseconds key) :
    PausesEnd events := by
  intro before key after split _
  have belongs : .await 1 key ∈ events := by simp [split]
  exact absurd rfl (noWaits _ belongs 1 key)

private theorem OfFrame.pausesEnd
    {waited : List Wait}
    (ofFrame : OfFrame waited) :
    PausesEnd (waited.map Wait.event) := by
  intro before key after split space
  cases ofFrame with
  | short goesOn =>
      rw [List.map_singleton, List.singleton_eq_append_iff] at split
      rcases split with ⟨_, isLast⟩ | ⟨_, isNil⟩
      · cases isLast
        rw [Wait.short, goesOn] at space
        cases space
      · cases isNil
  | paused _ isPause =>
      rw [List.map_cons, List.cons_eq_append_iff] at split
      rcases split with ⟨_, isRest⟩ | ⟨others, _, isOthers⟩
      · cases isRest
        exact ⟨_, [], isPause, (List.append_nil _).symm⟩
      -- all waits behind the first one are long
      · have belongs : Event.await 1 key ∈ List.map Wait.event _ :=
          isOthers ▸ List.mem_append_right _ List.mem_cons_self
        obtain ⟨idle, last, _, _⟩ := isPause
        simp [Wait.event, Wait.long] at belongs

private theorem pausesEnd_rounds
    {rounds : List Round}
    (waits : ∀ round ∈ rounds, OfFrame round.waited) :
    PausesEnd (rounds.flatMap Round.events) := by
  induction rounds with
  | nil => exact pausesEnd_of_no_waits (by simp)
  | cons round rest inductionHypothesis =>
      obtain ⟨first, others⟩ := List.forall_mem_cons.mp waits
      rw [List.flatMap_cons]
      refine .append (.append ?_ first.pausesEnd) (inductionHypothesis others)
      exact pausesEnd_of_no_waits (by simp)

/-! ## The whole video -/

private theorem exists_grid_iff {screen : Screen} :
    (∃ grid, screen.grid = .ok grid) ↔
      ∀ shape lit, screen = .bitmap shape lit → shape = [64, 32] := by
  cases screen with
  | cells display => simp [Screen.grid]
  | bitmap shape lit =>
      have isShape : [screenWidth, screenHeight] = [64, 32] := rfl
      rw [Screen.grid, isShape]
      split <;> simp [*]

theorem mapM_grid_cons_eq_ok_iff
    {screen : Screen} {rest : List Screen} {grids : List Grid} :
    (screen :: rest).mapM Screen.grid = .ok grids ↔
      ∃ grid others,
        screen.grid = .ok grid ∧ rest.mapM Screen.grid = .ok others ∧
          grids = grid :: others := by
  rw [List.mapM_cons]
  cases screen.grid with
  | error problem => simp [bind, Except.bind]
  | ok grid =>
      cases rest.mapM Screen.grid with
      | error problem => simp [bind, Except.bind]
      | ok others => simp [bind, Except.bind, pure, Except.pure, eq_comm]

/-- All screens have a grid if all bitmaps have the shape of the screen. -/
theorem exists_grids_iff {screens : List Screen} :
    (∃ grids, screens.mapM Screen.grid = .ok grids) ↔
      ∀ shape lit, Screen.bitmap shape lit ∈ screens → shape = [64, 32] := by
  induction screens with
  | nil => simp [pure, Except.pure]
  | cons screen rest inductionHypothesis =>
      have split :
          (∃ grids, (screen :: rest).mapM Screen.grid = .ok grids) ↔
            (∃ grid, screen.grid = .ok grid) ∧
              ∃ grids, rest.mapM Screen.grid = .ok grids := by
        simp only [mapM_grid_cons_eq_ok_iff]
        constructor
        · rintro ⟨_, grid, others, isGrid, isOthers, _⟩
          exact ⟨⟨grid, isGrid⟩, others, isOthers⟩
        · rintro ⟨⟨grid, isGrid⟩, others, isOthers⟩
          exact ⟨_, grid, others, isGrid, isOthers, rfl⟩
      rw [split, exists_grid_iff, inductionHypothesis]
      grind

theorem forall₂_grid_of_mapM
    {screens : List Screen} {grids : List Grid}
    (isGrids : screens.mapM Screen.grid = .ok grids) :
    List.Forall₂ (fun screen grid => screen.grid = .ok grid) screens grids := by
  induction screens generalizing grids with
  | nil =>
      cases isGrids
      exact .nil
  | cons screen rest inductionHypothesis =>
      obtain ⟨grid, others, isGrid, isOthers, rfl⟩ :=
        mapM_grid_cons_eq_ok_iff.mp isGrids
      exact .cons isGrid (inductionHypothesis isOthers)

section

variable {options : Options} {name : String} {palette : Palette}
  {screens : List Screen} {grids : List Grid} {refuses : Float → Bool}

/-- With screens, a palette and something to show them on, their grids are
played. -/
theorem film_eq_playGrids
    {m : Type → Type} [Monad m] (studio : Studio m)
    (asked : options.filename.isSome = true ∨ options.display = true)
    (known : Palette.get options.colorScheme = .ok palette)
    (filled : screens ≠ []) (isGrids : screens.mapM Screen.grid = .ok grids)
    (keys : List Int) :
    studio.film options screens keys =
      studio.playGrids options palette grids keys := by
  have due :
      (screens.isEmpty || (options.filename.isNone && !options.display)) =
        false := by
    rcases asked with isSome | shows
    · obtain ⟨name, isName⟩ := Option.isSome_iff_exists.mp isSome
      simp [filled, isName]
    · simp [filled, shows]
  rw [Studio.film, due, if_neg Bool.false_ne_true, isGrids]
  simp only [known]

/-- Where opening and closing do not fail, the frames of a video lie between
them, and the outcome of the frames is that of the video. -/
theorem run_playGrids
    {reel played : Reel} {outcome : Except Problem Unit} {keys : List Int}
    (opens : ∀ event ∈ openings options,
      ∀ before, reel.fails before event = none)
    (rated : (options.display && options.fps == 0) = false)
    (isRun :
      (Reel.studio.playFrames options grids.length 0
          (pictures options palette (Vector.replicate _ 0) grids) keys).run.run
          { reel with events := reel.events ++ openings options } =
        (outcome, played))
    (closes : ∀ event ∈ closings options,
      ∀ before, played.fails before event = none) :
    (Reel.studio.playGrids options palette grids keys).run.run reel =
      (outcome,
        { played with events := played.events ++ closings options }) := by
  have caught :
      (ExceptT.lift (Reel.studio.playFrames options grids.length 0
            (pictures options palette (Vector.replicate _ 0) grids) keys).run :
          Script (Except Problem Unit)).run.run
          { reel with events := reel.events ++ openings options } =
        (.ok outcome, played) := by
    rw [ExceptT.run_lift, StateT.run_map, isRun]
    rfl
  rw [Studio.playGrids, run_bind_of_ok (run_performAll_of_none opens), rated,
    if_neg Bool.false_ne_true]
  refine (run_bind_of_ok caught _).trans ?_
  exact run_bind_of_ok (run_performAll_of_none closes) _

/-- What happens between the openings and the closings is what the frames do,
and the closings follow in any case. -/
theorem run_film
    (asked : options.filename.isSome = true ∨ options.display = true)
    (known : Palette.get options.colorScheme = .ok palette)
    (filled : screens ≠ []) (isGrids : screens.mapM Screen.grid = .ok grids)
    (rated : (options.display && options.fps == 0) = false)
    {keys : List Int} {clock later : Clock} {outcome : Except Problem Unit}
    {between : List Event}
    (isRun :
      (Reel.studio.playFrames options grids.length 0
          (pictures options palette (Vector.replicate _ 0) grids) keys).run.run
          (.willing refuses (openings options) clock) =
        (outcome, .willing refuses (openings options ++ between) later)) :
    (Reel.studio.film options screens keys).run.run
        (.willing refuses [] clock) =
      (outcome,
        .willing refuses (openings options ++ between ++ closings options)
          later) := by
  rw [film_eq_playGrids Reel.studio asked known filled isGrids]
  have opens : ∀ event ∈ openings options, ∀ before,
      (Reel.willing refuses [] clock).fails before event = none :=
    fun _ _ _ => rfl
  exact run_playGrids opens rated isRun fun _ _ _ => rfl

theorem Reel.play_of_run
    {reel after : Reel} {keys : List Int} {outcome : Except Problem Unit}
    (isRun :
      (Reel.studio.film options screens keys).run.run reel = (outcome, after)) :
    (reel.play options screens keys).events = after.events ∧
      (outcome = .ok () → (reel.play options screens keys).problem = none) ∧
      ∀ problem, outcome = .error problem →
        (reel.play options screens keys).problem = some problem := by
  rw [Reel.play, isRun]
  refine ⟨rfl, ?_, ?_⟩
  · rintro rfl
    rfl
  · rintro problem rfl
    rfl

theorem play_eq (keys : List Int) (clock : Clock) :
    play options screens keys clock refuses =
      (Reel.willing refuses [] clock).play options screens keys :=
  rfl

theorem openings_of_named
    (named : options.filename = some name) (nonempty : name ≠ "") :
    openings options =
      [.coding "mp4v",
        .openFile name options.fps (screenWidth * options.scale)
          (screenHeight * options.scale)] ++
        if options.display then [.openWindow] else [] := by
  simp [openings, wanted, named, nonempty]

theorem closings_of_named
    (named : options.filename = some name) (nonempty : name ≠ "") :
    closings options =
      [.release] ++ if options.display then [.closeWindows] else [] := by
  simp [closings, wanted, named, nonempty]

section

variable (refuses : Float → Bool)
  (named : options.filename = some name) (nonempty : name ≠ "")
  (enlarged : 1 ≤ options.scale)
  (known : Palette.get options.colorScheme = .ok palette)
  (filled : screens ≠ [])
  (shaped : ∀ shape lit, Screen.bitmap shape lit ∈ screens → shape = [64, 32])

include named nonempty enlarged known filled shaped

/-- Without a window the file is opened, takes all images and is closed. -/
theorem events_without_window
    (hidden : options.display = false) (keys : List Int) (clock : Clock) :
    (play options screens keys clock refuses).events =
        [.coding "mp4v",
          .openFile name options.fps (screenWidth * options.scale)
            (screenHeight * options.scale)] ++
          (images options palette screens).map Event.write ++ [.release] ∧
      (play options screens keys clock refuses).problem = none := by
  have isNamed : (options.filename.getD "").isEmpty = false := by
    simp [named, nonempty]
  obtain ⟨grids, isGrids⟩ := exists_grids_iff.mpr shaped
  have isImages :=
    pictures_eq_images enlarged known (forall₂_grid_of_mapM isGrids)
  obtain ⟨later, isRun⟩ :=
    run_playFrames_without_window refuses hidden isNamed
      grids.length 0 (images options palette screens) keys (openings options)
      clock
  rw [← isImages] at isRun
  obtain ⟨isEvents, noProblem, _⟩ :=
    Reel.play_of_run
      (run_film (.inl (by simp [named])) known filled isGrids (by simp [hidden])
        isRun)
  rw [play_eq, isEvents, isImages, Reel.willing,
    openings_of_named named nonempty, closings_of_named named nonempty, hidden]
  exact ⟨rfl, noProblem rfl⟩

private theorem exists_events_in_window
    (shows : options.display = true) (rated : (options.fps == 0) = false)
    (keys : List Int) (clock : Clock) :
    ∃ rounds,
      (play options screens keys clock refuses).events =
          [.coding "mp4v",
            .openFile name options.fps (screenWidth * options.scale)
              (screenHeight * options.scale),
            .openWindow] ++
            rounds.flatMap Round.events ++ [.release, .closeWindows] ∧
        Screened (images options palette screens) keys rounds ∧
        ((play options screens keys clock refuses).problem = none ∧
            Ends (images options palette screens) rounds ∨
          (play options screens keys clock refuses).problem =
              some (.failure .sleepTooLong) ∧
            Stops rounds ∧
            ∃ start stop,
              refuses (1 / options.fps - (stop - start)) = true) := by
  have isNamed : (options.filename.getD "").isEmpty = false := by
    simp [named, nonempty]
  obtain ⟨grids, isGrids⟩ := exists_grids_iff.mpr shaped
  have isImages :=
    pictures_eq_images enlarged known (forall₂_grid_of_mapM isGrids)
  obtain ⟨outcome, rounds, later, isRun, screened, ends⟩ :=
    exists_rounds refuses shows isNamed grids.length 0
      (images options palette screens) keys (openings options) clock
  rw [← isImages] at isRun
  obtain ⟨isEvents, ifOk, ifError⟩ :=
    Reel.play_of_run
      (run_film (.inl (by simp [named])) known filled isGrids (by simp [rated])
        isRun)
  refine ⟨rounds, ?_, screened, ?_⟩
  · rw [play_eq, isEvents, Reel.willing, openings_of_named named nonempty,
      closings_of_named named nonempty, shows]
    rfl
  · rcases ends with ⟨isOk, ends⟩ | ⟨isError, stops⟩
    · exact .inl ⟨ifOk isOk, ends⟩
    · exact .inr ⟨ifError _ isError, stops⟩

/-- What is written in a window is shown, and no frame lies in a pause. -/
theorem recorded_in_window
    (shows : options.display = true) (rated : (options.fps == 0) = false)
    (keys : List Int) (clock : Clock) :
    let result := play options screens keys clock refuses
    let all := images options palette screens
    PausesEnd result.events ∧
      ∃ rounds, Screened all keys rounds ∧
        result.events.filterMap Event.written? = all.take rounds.length ∧
        result.events.filterMap Event.shown? = all.take rounds.length ∧
        result.events =
          [.coding "mp4v",
            .openFile name options.fps (screenWidth * options.scale)
              (screenHeight * options.scale),
            .openWindow] ++
            rounds.flatMap Round.events ++ [.release, .closeWindows] ∧
        (result.problem = none ∧ Ends all rounds ∨
          result.problem = some (.failure .sleepTooLong) ∧ Stops rounds ∧
            ∃ start stop,
              refuses (1 / options.fps - (stop - start)) = true) := by
  intro result all
  obtain ⟨rounds, isEvents, screened, ends⟩ :=
    exists_events_in_window refuses named nonempty enlarged known filled shaped
      shows rated keys clock
  refine ⟨?_, rounds, screened, ?_, ?_, isEvents, ends⟩
  · rw [isEvents]
    refine .append (.append (pausesEnd_of_no_waits ?_)
      (pausesEnd_rounds screened.waits)) (pausesEnd_of_no_waits ?_)
    · simp
    · simp
  · rw [← screened.ofPrefix, ← written_rounds, isEvents]
    simp [List.filterMap_cons, Event.written?]
  · rw [← screened.ofPrefix, ← shown_rounds, isEvents]
    simp [List.filterMap_cons, Event.shown?]

theorem written_without_window
    (hidden : options.display = false) (keys : List Int) (clock : Clock) :
    (play options screens keys clock refuses).events.filterMap Event.written? =
      images options palette screens := by
  have each (album : List Picture) :
      (album.map Event.write).filterMap Event.written? = album := by
    rw [List.filterMap_map]
    exact List.filterMap_some
  obtain ⟨isEvents, _⟩ :=
    events_without_window refuses named nonempty enlarged known filled shaped
      hidden keys clock
  rw [isEvents, List.filterMap_append, List.filterMap_append, each]
  simp [List.filterMap_cons, Event.written?]

end

end

def dotAndBitmap : List Screen :=
  [.cells (.singleton ⟨3, 4⟩), .bitmap [64, 32] (.singleton ⟨63, 31⟩)]

def recorded : Options :=
  { filename := some "run.mp4", scale := 2, display := true }

end Chip8.Video
