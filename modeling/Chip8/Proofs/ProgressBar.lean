import Chip8.Proofs.Accounting

/-!
# The progress bar of a run

A bar moves on when the next frame is asked for, while the frame itself is
counted when it has been drawn.  So at the start of each round of the loop the
bar is one step behind the frames that were handed out, and asking for the next
frame makes up for it.  A run that is halted by a fault asks for no further
frame: its last frame is counted, and the bar never shows it.
-/

namespace Chip8

namespace FrameSupply

/-- The supply opens the given bar with its first frame, and once it is open the
bar is one step behind the frames that were handed out. -/
structure Tracks (supply : FrameSupply) (bar : Bar) : Prop where
  unfinished : supply.finished = false
  tracker : supply.tracker = some bar
  opened : 0 < supply.given →
    supply.bar = some { bar with updates := supply.given - 1 }

variable {supply : FrameSupply} {bar : Bar}

theorem Tracks.movedBar
    (tracks : supply.Tracks bar) (unmoved : bar.updates = 0) :
    supply.movedBar = some { bar with updates := supply.given } := by
  unfold FrameSupply.movedBar
  by_cases first : supply.given = 0
  · rw [if_pos first, tracks.tracker, first, ← unmoved]
  · have isOpen := tracks.opened (by omega)
    rw [if_neg first, isOpen, Option.map_some, Bar.advance]
    congr 2
    simp only
    omega

/-- The supply after a frame is asked for and handed out. -/
theorem Tracks.handOut
    (tracks : supply.Tracks bar) (unmoved : bar.updates = 0) :
    Tracks { supply with given := supply.given + 1, bar := supply.movedBar }
      bar where
  unfinished := tracks.unfinished
  tracker := tracks.tracker
  opened := fun _ => tracks.movedBar unmoved

private theorem tracks_tracked
    (frames : Int) (description : Option String)
    (options : List (String × Value)) :
    (tracked frames description options).Tracks
      (.ofFrames frames description options) where
  unfinished := rfl
  tracker := rfl
  opened := fun handedOut => absurd handedOut (Nat.lt_irrefl 0)

end FrameSupply

namespace Session

def Unbroken (records : List Record) : Prop :=
  ∀ record ∈ records, record.failure? = none

theorem BrokenOff.not_unbroken
    {records : List Record} {failure : Failure}
    (broken : BrokenOff records failure) :
    ¬ Unbroken records := by
  obtain ⟨earlier, latest, rfl, _, _, fails⟩ := broken
  intro unbroken
  have works := unbroken latest (by simp)
  rw [works] at fails
  cases fails

theorem Unbroken.of_append
    {earlier later : List Record}
    (unbroken : Unbroken (earlier ++ later)) :
    Unbroken later :=
  (List.forall_mem_append.mp unbroken).2

/-- The number of frames that are counted and never asked about again. -/
def Ending.lag (ending : Ending) : Nat :=
  if ending = .halted then 1 else 0

/-- The bar was closed once.  If no device failed, it was moved on once for each
frame beyond the given numbers, up to the lag of the ending. -/
def Settles (bar : Bar) (frames given : Nat) (records : List Record)
    (stats : Stats) (closed : Option Bar) (ending : Ending) : Prop :=
  ∃ updates,
    closed =
        some { bar with updates := updates, closings := bar.closings + 1 } ∧
      (Unbroken records →
        frames + updates + ending.lag = stats.frames + given)

variable {m : Type → Type} [Monad m] [LawfulMonad m] {devices : Devices m}

/-! ## The loop over frames -/

private theorem settles_runFrames
    (config : Config) (duration start : Float) (patience : Nat)
    (supply : FrameSupply) (lastEnd : Float) (session : Session) {bar : Bar}
    (tracks : supply.Tracks bar) (unmoved : bar.updates = 0) :
    Follows
      (runFrames devices.recording config duration start patience supply
        lastEnd session)
      (runFrames devices config duration start patience supply lastEnd session)
      fun added result =>
        result.2.2 = .unfinished ∨
          Settles bar session.stats.frames supply.given added result.1.stats
            result.2.1.close.bar result.2.2 := by
  induction patience generalizing supply lastEnd session with
  | zero => exact .of_pure (.inl rfl)
  | succ patience inductionHypothesis =>
      have movedBar := tracks.movedBar unmoved
      unfold runFrames
      by_cases more : HasFrame supply.limit supply.given
      · rw [next_of_hasFrame tracks.unfinished more]
        -- the bar as it is closed if the loop is left in this round
        have closes :
            FrameSupply.bar (FrameSupply.close
              { supply with
                given := supply.given + 1, bar := supply.movedBar }) =
              some
                { bar with
                  updates := supply.given
                  closings := bar.closings + 1 } := by
          simp [FrameSupply.close, tracks.unfinished, movedBar, Bar.close]
        refine (Follows.noting _ _).bind ?_
        rintro _ (failure | keys) rfl
        · refine .of_pure (.inr ⟨_, closes, fun unbroken => ?_⟩)
          have broken : BrokenOff [.asked (.error failure)] failure :=
            .single rfl rfl
          exact absurd unbroken broken.not_unbroken
        cases keys with
        | none =>
            refine .of_pure (.inr ⟨_, closes, fun _ => ?_⟩)
            simp [Ending.lag]
        | some keys =>
            refine (follows_runFrame config start keys session).bind ?_
            rintro _ ⟨played, course⟩ (⟨failure, failed, broken⟩ |
              ⟨failure, fails, isPlayed, rfl⟩ |
              ⟨unbroken, elapsed, isPlayed, rfl⟩)
            · subst failed
              refine .of_pure (.inr ⟨_, closes, fun unbroken => ?_⟩)
              rw [List.append_nil] at unbroken
              exact absurd unbroken.of_append broken.not_unbroken
            · obtain ⟨rfl, rfl⟩ := Prod.mk.inj isPlayed
              refine .of_pure (.inr ⟨_, closes, fun _ => ?_⟩)
              simp [Ending.lag, after, Stats.after]
            obtain ⟨rfl, rfl⟩ := Prod.mk.inj isPlayed
            cases course : (playFrame config keys session.machine).course with
            | failed failure => exact absurd course (unbroken failure)
            | halted =>
                refine .of_pure (.inr ⟨_, closes, fun _ => ?_⟩)
                simp only [Ending.lag, counted, after, Stats.after, if_true]
                omega
            | goesOn =>
                refine (follows_pace duration lastEnd).bind ?_
                rintro _ frameEnd rfl
                refine (inductionHypothesis _ _ _
                  (tracks.handOut unmoved)).weaken ?_
                rintro later ⟨final, last, ending⟩
                  (unfinished | ⟨updates, isClosed, balance⟩)
                · exact .inl unfinished
                · refine .inr ⟨updates, isClosed, fun unbroken => ?_⟩
                  have frames := balance unbroken.of_append.of_append.of_append
                  simp only [counted, after, Stats.after] at frames
                  simp only
                  omega
      · rw [next_of_not_hasFrame tracks.unfinished more]
        refine .of_pure (.inr ⟨supply.given, ?_, fun _ => ?_⟩)
        · simp [FrameSupply.close, movedBar, Bar.close]
        · simp [Ending.lag]

private theorem settles_runAndRelease
    (config : Config) (duration start : Float) (patience : Nat)
    (supply : FrameSupply) (session : Session) {bar : Bar}
    (tracks : supply.Tracks bar) (unmoved : bar.updates = 0) :
    Follows
      (session.runAndRelease devices.recording config duration start patience
        supply)
      (session.runAndRelease devices config duration start patience supply)
      fun added result =>
        result.ending = .unfinished ∨
          Settles bar session.stats.frames supply.given added
            result.session.stats result.bar result.ending := by
  unfold runAndRelease
  refine (settles_runFrames config duration start patience supply start session
    tracks unmoved).bind ?_
  rintro played ⟨final, last, ending⟩ course
  refine (Follows.noting _ _).bind ?_
  rintro _ _ rfl
  refine (Follows.lift _).bind ?_
  rintro _ time rfl
  refine .of_pure ?_
  rcases course with unfinished | ⟨updates, isClosed, balance⟩
  · exact .inl unfinished
  · refine .inr ⟨updates, isClosed, fun unbroken => balance ?_⟩
    exact (List.forall_mem_append.mp unbroken).1

/-! ## The whole run -/

/-- Once the front-end is set up, a run with a limit and a bar settles it. -/
theorem settles_run
    (devices : Devices m) (config : Config) (most : Int) (patience : Nat)
    (session : Session) :
    Follows
      (session.run devices.recording config (some most) true patience)
      (session.run devices config (some most) true patience)
      fun added result =>
        .prepared (.ok ()) ∈ added → Unbroken added →
          result.ending = .unfinished ∨
            Settles (.ofFrames most none []) session.stats.frames 0 added
              result.session.stats result.bar result.ending := by
  unfold run
  cases frameDuration config.fps with
  | error failure => exact .of_pure (fun prepared => by simp at prepared)
  | ok duration =>
      refine (Follows.noting _ _).bind ?_
      rintro _ (failure | _) rfl
      · exact .of_pure (fun prepared => by simp at prepared)
      refine (Follows.lift _).bind ?_
      rintro _ start rfl
      refine (Follows.noting _ _).bind ?_
      rintro _ (failure | _) rfl
      · exact .of_pure (fun prepared => by simp at prepared)
      refine (settles_runAndRelease config duration start _ _ session
        (FrameSupply.tracks_tracked most none []) rfl).bind ?_
      rintro played result course
      refine (follows_report result).weaken ?_
      rintro last reported (⟨failure, metrics, failed, rfl⟩ | ⟨rfl, rfl⟩)
      · intro _ unbroken
        have works := unbroken (.told (.ended metrics) (.error failure)) (by simp)
        cases works
      · intro _ unbroken
        rcases course with unfinished | ⟨updates, isClosed, balance⟩
        · exact .inl unfinished
        · refine .inr ⟨updates, isClosed, fun _ => balance ?_⟩
          intro record belongs
          exact unbroken record (by simp [belongs])

/-- A run that is broken off behind its setup has a failing record. -/
theorem Aborted.not_unbroken
    {config : Config} {records : List Record} {failure : Failure}
    (aborted : Aborted config records failure)
    (prepared : .prepared (.ok ()) ∈ records) :
    ¬ Unbroken records := by
  intro unbroken
  cases aborted with
  | rate _ => simp at prepared
  | start => simp at prepared
  | setup => simp at prepared
  | frame broken =>
      have frames := (List.forall_mem_append.mp unbroken).1
      exact broken.not_unbroken (Unbroken.of_append frames)
  | farewell played metrics =>
      have works := unbroken (.told (.ended metrics) (.error failure)) (by simp)
      cases works

/-- The run of a machine that a fault halts in its second frame, with a bar for
five frames. -/
def strayReturnTracked : (Result × List Record) × Unit :=
  ((run idle.recording { fps := 0, instructionsPerFrame := 2 } (some 5) true 0
    { machine := strayReturn }).run []).run ()

def Record.isSetUp : Record → Bool
  | .prepared (.ok ()) => true
  | _ => false

end Session

end Chip8
