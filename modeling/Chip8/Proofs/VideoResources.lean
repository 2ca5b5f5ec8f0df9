import Chip8.Proofs.VideoFrames

/-!
# The file and the window of a video

A video opens its file and its window before the first frame and closes them
behind the last one.  The frames between use them and do nothing else with
them, whichever key ends the video and whatever fails in a frame.

The length of a frame in a window is worked out when both are open and no frame
has begun.  It does not exist if there are no frames in a second, so such a
video breaks off there, and what it has opened stays open.
-/

namespace Chip8.Video

/-! ## The history of a resource -/

/-- What a video holds while it is played. -/
inductive Resource where
  | file
  | window
  deriving DecidableEq, Repr

/-- What can be done with a resource. -/
inductive Usage where
  | opens
  | uses
  | closes
  deriving DecidableEq, Repr

def Event.usage? : Resource → Event → Option Usage
  | .file, .openFile .. => some .opens
  | .file, .write _ => some .uses
  | .file, .release => some .closes
  | .window, .openWindow => some .opens
  | .window, .present _ => some .uses
  | .window, .closeWindows => some .closes
  | _, _ => none

/-- What some events do with a resource, in their order. -/
def history (resource : Resource) (events : List Event) : List Usage :=
  events.filterMap (Event.usage? resource)

theorem history_append (resource : Resource) (first second : List Event) :
    history resource (first ++ second) =
      history resource first ++ history resource second :=
  List.filterMap_append

/-- Behind every opening of the resource there is exactly one closing, and
behind that the resource is not used. -/
def ReleasedOnce (resource : Resource) (events : List Event) : Prop :=
  ∀ before opening after,
    events = before ++ opening :: after →
      opening.usage? resource = some .opens →
        ∃ during closing rest,
          after = during ++ closing :: rest ∧
            closing.usage? resource = some .closes ∧
            (∀ event ∈ during, event.usage? resource ≠ some .closes) ∧
            ∀ event ∈ rest,
              event.usage? resource ≠ some .closes ∧
                event.usage? resource ≠ some .uses

section

variable {resource : Resource} {events : List Event}

theorem mem_history_iff {usage : Usage} :
    usage ∈ history resource events ↔
      ∃ event ∈ events, event.usage? resource = some usage :=
  List.mem_filterMap

theorem releasedOnce_of_unopened
    (unopened : .opens ∉ history resource events) :
    ReleasedOnce resource events := by
  intro before opening after split opens
  have belongs : opening ∈ events := by simp [split]
  exact absurd (mem_history_iff.mpr ⟨opening, belongs, opens⟩) unopened

private theorem releasedOnce_of_cycle
    {count : Nat}
    (cycle :
      history resource events =
        .opens :: (List.replicate count .uses ++ [.closes])) :
    ReleasedOnce resource events := by
  intro before opening after split opens
  have joined :
      history resource before ++ .opens :: history resource after =
        .opens :: (List.replicate count .uses ++ [.closes]) := by
    rw [← cycle, split, history_append]
    simp [history, opens]
  -- the resource is opened only once, so nothing was done with it before
  have isAfter :
      history resource after = List.replicate count .uses ++ [.closes] := by
    cases earlier : history resource before with
    | nil =>
        rw [earlier] at joined
        exact (List.cons.inj joined).2
    | cons usage others =>
        rw [earlier] at joined
        have again :
            Usage.opens ∈ List.replicate count Usage.uses ++ [.closes] := by
          rw [← (List.cons.inj joined).2]
          simp
        simp at again
  obtain ⟨during, later, rfl, onlyUses, closes⟩ :=
    List.filterMap_eq_append_iff.mp isAfter
  obtain ⟨idle, closing, rest, rfl, nothing, isClosing, finished⟩ :=
    List.filterMap_eq_cons_iff.mp closes
  refine ⟨during ++ idle, closing, rest, (List.append_assoc ..).symm, isClosing,
    List.forall_mem_append.mpr ⟨?_, ?_⟩, ?_⟩
  · intro event belongs closesEarly
    have early : Usage.closes ∈ List.replicate count Usage.uses := by
      rw [← onlyUses]
      exact mem_history_iff.mpr ⟨event, belongs, closesEarly⟩
    simp at early
  · intro event belongs
    simp [nothing event belongs]
  · intro event belongs
    simp [List.filterMap_eq_nil_iff.mp finished event belongs]

private theorem ReleasedOnce.closes_mem
    (released : ReleasedOnce resource events)
    (opened : .opens ∈ history resource events) :
    .closes ∈ history resource events := by
  obtain ⟨opening, belongs, opens⟩ := mem_history_iff.mp opened
  obtain ⟨before, after, split⟩ := List.append_of_mem belongs
  obtain ⟨during, closing, rest, rfl, closes, _⟩ :=
    released before opening after split opens
  exact mem_history_iff.mpr ⟨closing, by simp [split], closes⟩

end

/-! ## What a video is made with -/

def Resource.isWanted (options : Options) : Resource → Bool
  | .file => !(options.filename.getD "").isEmpty
  | .window => options.display

/-- A resource sees its own event exactly if the video is made with it. -/
theorem history_wanted
    (options : Options) {onFile onWindow : List Event} {usage : Usage}
    (ofFile : history .file onFile = [usage])
    (notOfWindow : history .window onFile = [])
    (notOfFile : history .file onWindow = [])
    (ofWindow : history .window onWindow = [usage]) (resource : Resource) :
    history resource (wanted options onFile onWindow) =
      if resource.isWanted options then [usage] else [] := by
  rw [wanted, history_append]
  cases resource with
  | file =>
      have silent :
          history .file (if options.display then onWindow else []) = [] := by
        split
        · exact notOfFile
        · rfl
      rw [silent, List.append_nil, Resource.isWanted]
      cases (options.filename.getD "").isEmpty with
      | true => rfl
      | false => exact ofFile
  | window =>
      have silent :
          history .window
            (if (options.filename.getD "").isEmpty then [] else onFile) =
            [] := by
        split
        · rfl
        · exact notOfWindow
      rw [silent, List.nil_append, Resource.isWanted]
      cases options.display with
      | true => exact ofWindow
      | false => rfl

theorem history_openings (options : Options) (resource : Resource) :
    history resource (openings options) =
      if resource.isWanted options then [.opens] else [] :=
  history_wanted options rfl rfl rfl rfl resource

private theorem history_closings (options : Options) (resource : Resource) :
    history resource (closings options) =
      if resource.isWanted options then [.closes] else [] :=
  history_wanted options rfl rfl rfl rfl resource

/-! ## What the frames do -/

/-- The event does nothing with the file and the window but use them, if the
video is made with them. -/
def Event.IsFrameEvent (options : Options) (event : Event) : Prop :=
  ∀ resource,
    event.usage? resource = none ∨
      event.usage? resource = some .uses ∧ resource.isWanted options = true

theorem isFrameEvent_await (options : Options) (milliseconds : Nat) (key : Int) :
    (Event.await milliseconds key).IsFrameEvent options := by
  intro resource
  cases resource <;> exact .inl rfl

private theorem isFrameEvent_of_mem_wanted
    {options : Options} {picture : Picture} {text : String} {event : Event}
    (belongs :
      event ∈
        wanted options [.write picture] [.caption text, .present picture]) :
    event.IsFrameEvent options := by
  rcases List.mem_append.mp belongs with onFile | onWindow
  · split at onFile
    · cases onFile
    next named =>
      obtain rfl := List.mem_singleton.mp onFile
      intro resource
      cases resource with
      | file => exact .inr ⟨rfl, by simpa [Resource.isWanted] using named⟩
      | window => exact .inl rfl
  · split at onWindow
    next shows =>
      intro resource
      simp only [List.mem_cons, List.not_mem_nil, or_false] at onWindow
      rcases onWindow with rfl | rfl
      · cases resource <;> exact .inl rfl
      · cases resource with
        | file => exact .inl rfl
        | window => exact .inr ⟨rfl, shows⟩
    · cases onWindow

/-- Whatever fails, the script leaves the studio as it is but for events of a
kind and for the time, and it ends with a failure of the studio or well. -/
def OnlyAdds {α : Type} (kind : Event → Prop) (script : Script α) : Prop :=
  ∀ reel,
    (script.run.run reel).2.fails = reel.fails ∧
      (∃ more,
        (script.run.run reel).2.events = reel.events ++ more ∧
          ∀ event ∈ more, kind event) ∧
      ∀ problem, (script.run.run reel).1 = .error problem →
        ∃ failure, problem = .failure failure

section

variable {α β : Type} {kind : Event → Prop}

theorem onlyAdds_pure (value : α) : OnlyAdds kind (pure value : Script α) := by
  intro reel
  refine ⟨rfl, ⟨[], (List.append_nil _).symm, by simp⟩, ?_⟩
  intro problem isError
  cases isError

/-- What only adds events of a kind can be done one after the other. -/
theorem OnlyAdds.bind
    {script : Script α} {next : α → Script β}
    (first : OnlyAdds kind script)
    (others : ∀ value, OnlyAdds kind (next value)) :
    OnlyAdds kind (script >>= next) := by
  intro reel
  obtain ⟨sameFails, ⟨more, isMore, ofKind⟩, failures⟩ := first reel
  rcases isRun : script.run.run reel with ⟨outcome, after⟩
  rw [isRun] at sameFails isMore failures
  cases outcome with
  | error problem =>
      rw [run_bind_of_error isRun]
      refine ⟨sameFails, ⟨more, isMore, ofKind⟩, ?_⟩
      intro other isOther
      cases isOther
      exact failures problem rfl
  | ok value =>
      obtain ⟨stillSame, ⟨further, isFurther, furtherOfKind⟩, laterFailures⟩ :=
        others value after
      rw [run_bind_of_ok isRun]
      refine ⟨stillSame.trans sameFails, ⟨more ++ further, ?_, ?_⟩,
        laterFailures⟩
      · rw [isFurther, isMore, List.append_assoc]
      · exact List.forall_mem_append.mpr ⟨ofKind, furtherOfKind⟩

theorem onlyAdds_perform
    {event : Event} (ofKind : kind event) :
    OnlyAdds kind (Studio.attempt (Reel.studio.perform event)) := by
  intro reel
  cases isDone : reel.fails reel.events event with
  | none =>
      rw [run_perform_of_none isDone]
      refine ⟨rfl, ⟨[event], rfl, List.forall_mem_singleton.mpr ofKind⟩, ?_⟩
      intro problem isError
      cases isError
  | some failure =>
      rw [run_perform_of_some isDone]
      refine ⟨rfl, ⟨[], (List.append_nil _).symm, by simp⟩, ?_⟩
      intro problem isError
      cases isError
      exact ⟨failure, rfl⟩

private theorem onlyAdds_sleep (seconds : Float) :
    OnlyAdds kind (Studio.attempt (Reel.studio.sleep seconds)) := by
  intro reel
  by_cases refused : reel.refuses seconds = true
  · rw [run_sleep_of_refused refused]
    refine ⟨rfl, ⟨[], (List.append_nil _).symm, by simp⟩, ?_⟩
    intro problem isError
    cases isError
    exact ⟨_, rfl⟩
  · rw [run_sleep_of_allowed refused]
    refine ⟨rfl, ⟨[], (List.append_nil _).symm, by simp⟩, ?_⟩
    intro problem isError
    cases isError

theorem onlyAdds_now :
    OnlyAdds kind (ExceptT.lift Reel.studio.now : Script Float) := by
  intro reel
  refine ⟨rfl, ⟨[], (List.append_nil _).symm, by simp⟩, ?_⟩
  intro problem isError
  cases isError

private theorem onlyAdds_performAll
    {events : List Event} (ofKind : ∀ event ∈ events, kind event) :
    OnlyAdds kind (Reel.studio.performAll events) := by
  induction events with
  | nil => exact onlyAdds_pure ()
  | cons event rest inductionHypothesis =>
      obtain ⟨first, others⟩ := List.forall_mem_cons.mp ofKind
      exact (onlyAdds_perform first).bind fun _ => inductionHypothesis others

end

section

variable {options : Options}

private theorem onlyAdds_pause (keys : List Int) :
    OnlyAdds (Event.IsFrameEvent options) (Reel.studio.pause keys) := by
  induction keys with
  | nil =>
      exact (onlyAdds_perform (isFrameEvent_await options _ _)).bind fun _ =>
        onlyAdds_pure _
  | cons key rest inductionHypothesis =>
      refine (onlyAdds_perform (isFrameEvent_await options _ _)).bind fun _ => ?_
      split
      · exact onlyAdds_pure _
      split
      · exact onlyAdds_pure _
      · exact inductionHypothesis

private theorem onlyAdds_waits (keys : List Int) :
    OnlyAdds (Event.IsFrameEvent options) (Reel.studio.waits keys) := by
  refine (onlyAdds_perform (isFrameEvent_await options _ _)).bind fun _ => ?_
  split
  · exact onlyAdds_pure _
  split
  · exact onlyAdds_pause _
  · exact onlyAdds_pure _

private theorem onlyAdds_rest (start : Float) :
    OnlyAdds (Event.IsFrameEvent options) (Reel.studio.rest options start) := by
  refine onlyAdds_now.bind fun stop => ?_
  simp only
  split
  · exact onlyAdds_sleep _
  · exact onlyAdds_pure _

/-- The frames of a video do nothing with its file and its window but use
them. -/
theorem onlyAdds_playFrames
    (options : Options) (total number : Nat) (images : List Picture) (keys : List Int) :
    OnlyAdds (Event.IsFrameEvent options)
      (Reel.studio.playFrames options total number images keys) := by
  induction images generalizing number keys with
  | nil => exact onlyAdds_pure _
  | cons picture rest inductionHypothesis =>
      refine onlyAdds_now.bind fun start => ?_
      refine OnlyAdds.bind
        (onlyAdds_performAll fun event => isFrameEvent_of_mem_wanted)
        fun _ => ?_
      split
      · refine (onlyAdds_waits keys).bind fun waited => ?_
        rcases waited with ⟨left, quits⟩
        simp only
        split
        · exact onlyAdds_pure _
        · exact (onlyAdds_rest start).bind fun _ => inductionHypothesis _ _
      · exact inductionHypothesis _ _

private theorem exists_history_of_frameEvents
    {events : List Event}
    (ofFrames : ∀ event ∈ events, event.IsFrameEvent options)
    (resource : Resource) :
    ∃ count,
      history resource events =
        if resource.isWanted options then List.replicate count .uses
        else [] := by
  have onlyUses : ∀ usage ∈ history resource events,
      usage = .uses ∧ resource.isWanted options = true := by
    intro usage belongs
    obtain ⟨event, isEvent, isUsage⟩ := mem_history_iff.mp belongs
    rcases ofFrames event isEvent resource with none | ⟨uses, isWanted⟩
    · rw [none] at isUsage
      cases isUsage
    · rw [uses] at isUsage
      cases isUsage
      exact ⟨rfl, isWanted⟩
  refine ⟨(history resource events).length, ?_⟩
  split
  · exact List.eq_replicate_iff.mpr
      ⟨rfl, fun usage belongs => (onlyUses usage belongs).1⟩
  next unwanted =>
    apply List.eq_nil_iff_forall_not_mem.mpr
    intro usage belongs
    exact unwanted (onlyUses usage belongs).2

end

/-! ## The whole video -/

/-- A video is begun: there are screens, every bitmap has the shape of the
screen, and there is a palette with the name that is asked for. -/
structure Begins (options : Options) (screens : List Screen) : Prop where
  filled : screens ≠ []
  shaped : ∀ shape lit, Screen.bitmap shape lit ∈ screens → shape = [64, 32]
  named : options.colorScheme ∈ Palette.names

/-- A video is begun in a window, with no frames in a second. -/
structure BreaksOff (options : Options) (screens : List Screen) : Prop
    extends Begins options screens where
  shows : options.display = true
  rateless : (options.fps == 0) = true

theorem exists_palette_iff {name : String} :
    (∃ palette, Palette.get name = .ok palette) ↔ name ∈ Palette.names := by
  have found : (Palette.find? name).isSome = true ↔ name ∈ Palette.names := by
    rw [Palette.find?, List.lookup_isSome_iff, Palette.names, List.mem_map]
    constructor
    · rintro ⟨entry, belongs, same⟩
      exact ⟨entry, belongs, (beq_iff_eq.mp same).symm⟩
    · rintro ⟨entry, belongs, rfl⟩
      exact ⟨entry, belongs, beq_self_eq_true _⟩
  rw [← found, Palette.get]
  cases Palette.find? name <;> simp

section

variable {options : Options} {screens : List Screen} {reel : Reel}

/-- A studio that does not fail at opening and closing what a video is made
with.  Anything else may fail. -/
def Reel.Handles (reel : Reel) (options : Options) : Prop :=
  ∀ event ∈ openings options ++ closings options,
    ∀ before, reel.fails before event = none

/-- What happens between the openings and the closings does not keep the video
from closing. -/
theorem exists_events_playGrids
    (handles : reel.Handles options)
    (rated : (options.display && options.fps == 0) = false)
    (palette : Palette) (grids : List Grid) (keys : List Int) :
    ∃ outcome after between,
      (Reel.studio.playGrids options palette grids keys).run.run reel =
          (outcome, after) ∧
        after.events =
          reel.events ++ (openings options ++ between ++ closings options) ∧
        (∀ event ∈ between, event.IsFrameEvent options) ∧
        ∀ problem, outcome = .error problem →
          ∃ failure, problem = .failure failure := by
  obtain ⟨opens, closes⟩ := List.forall_mem_append.mp handles
  obtain ⟨sameFails, ⟨between, isBetween, ofFrames⟩, failures⟩ :=
    onlyAdds_playFrames options grids.length 0
      (pictures options palette (Vector.replicate _ 0) grids) keys
      { reel with events := reel.events ++ openings options }
  rcases isRun :
    (Reel.studio.playFrames options grids.length 0
      (pictures options palette (Vector.replicate _ 0) grids) keys).run.run
      { reel with events := reel.events ++ openings options } with
    ⟨outcome, played⟩
  rw [isRun] at sameFails isBetween failures
  simp only at sameFails isBetween failures
  refine ⟨outcome, _, between, run_playGrids opens rated isRun ?_, ?_, ofFrames,
    failures⟩
  · rw [sameFails]
    exact closes
  · simp only [isBetween, List.append_assoc]

private theorem play_of_not_begins
    (reel : Reel) (idle : ¬ Begins options screens) (keys : List Int) :
    (reel.play options screens keys).events = reel.events ∧
      (reel.play options screens keys).problem ≠ some .noRate := by
  have stopped :
      ∃ outcome,
        (Reel.studio.film options screens keys).run.run reel =
            (outcome, reel) ∧ outcome ≠ .error .noRate := by
    rw [Studio.film]
    split
    · exact ⟨.ok (), rfl, by simp⟩
    next due =>
      cases isGrids : screens.mapM Screen.grid with
      | error problem => exact ⟨_, rfl, by simp⟩
      | ok grids =>
          cases isPalette : Palette.get options.colorScheme with
          | error problem => exact ⟨_, rfl, by simp⟩
          | ok palette =>
              refine absurd ⟨?_, ?_, ?_⟩ idle
              · rintro rfl
                simp at due
              · exact exists_grids_iff.mp ⟨grids, isGrids⟩
              · exact exists_palette_iff.mp ⟨palette, isPalette⟩
  obtain ⟨outcome, isRun, notRate⟩ := stopped
  obtain ⟨isEvents, ifOk, ifError⟩ := Reel.play_of_run isRun
  refine ⟨isEvents, ?_⟩
  cases outcome with
  | ok value => simp [ifOk rfl]
  | error problem =>
      rw [ifError problem rfl]
      simpa using notRate

private theorem play_of_breaksOff
    (handles : reel.Handles options) (breaksOff : BreaksOff options screens)
    (keys : List Int) :
    (reel.play options screens keys).events =
        reel.events ++ openings options ∧
      (reel.play options screens keys).problem = some .noRate := by
  obtain ⟨grids, isGrids⟩ := exists_grids_iff.mpr breaksOff.shaped
  obtain ⟨palette, isPalette⟩ := exists_palette_iff.mpr breaksOff.named
  obtain ⟨opens, _⟩ := List.forall_mem_append.mp handles
  have isRun :
      (Reel.studio.film options screens keys).run.run reel =
        (.error .noRate,
          { reel with events := reel.events ++ openings options }) := by
    rw [film_eq_playGrids Reel.studio (.inr breaksOff.shows) isPalette
      breaksOff.filled isGrids, Studio.playGrids,
      run_bind_of_ok (run_performAll_of_none opens),
      if_pos (by simp [breaksOff.shows, breaksOff.rateless])]
    exact run_bind_of_error rfl _
  obtain ⟨isEvents, _, ifError⟩ := Reel.play_of_run isRun
  exact ⟨isEvents, ifError _ rfl⟩

/-- A video that does not break off opens what it is made with, uses it in its
frames and closes it, whatever fails in a frame. -/
theorem exists_history_play
    (fresh : reel.events = []) (handles : reel.Handles options)
    (whole : ¬ BreaksOff options screens) (keys : List Int) :
    (reel.play options screens keys).problem ≠ some .noRate ∧
      ∀ resource,
        (Begins options screens ∧ resource.isWanted options = true →
          ∃ count,
            history resource (reel.play options screens keys).events =
              .opens :: (List.replicate count .uses ++ [.closes])) ∧
        (¬ (Begins options screens ∧ resource.isWanted options = true) →
          history resource (reel.play options screens keys).events = []) := by
  by_cases begins : Begins options screens
  · by_cases asked :
        options.filename.isSome = true ∨ options.display = true
    · obtain ⟨grids, isGrids⟩ := exists_grids_iff.mpr begins.shaped
      obtain ⟨palette, isPalette⟩ := exists_palette_iff.mpr begins.named
      have rated : (options.display && options.fps == 0) = false := by
        rw [← Bool.not_eq_true, Bool.and_eq_true]
        rintro ⟨shows, rateless⟩
        exact whole ⟨begins, shows, rateless⟩
      obtain ⟨outcome, after, between, isRun, isAfter, ofFrames, failures⟩ :=
        exists_events_playGrids handles rated palette grids keys
      rw [← film_eq_playGrids Reel.studio asked isPalette begins.filled
        isGrids] at isRun
      obtain ⟨isEvents, ifOk, ifError⟩ := Reel.play_of_run isRun
      have isHistory (resource : Resource) :
          ∃ count,
            history resource (reel.play options screens keys).events =
              if resource.isWanted options then
                .opens :: (List.replicate count .uses ++ [.closes])
              else [] := by
        obtain ⟨count, isBetween⟩ :=
          exists_history_of_frameEvents ofFrames resource
        refine ⟨count, ?_⟩
        rw [isEvents, isAfter, fresh, List.nil_append, history_append,
          history_append, history_openings, isBetween, history_closings]
        cases resource.isWanted options <;> rfl
      refine ⟨?_, fun resource => ⟨?_, ?_⟩⟩
      · cases outcome with
        | ok value => simp [ifOk rfl]
        | error problem =>
            obtain ⟨failure, rfl⟩ := failures problem rfl
            simp [ifError _ rfl]
      · rintro ⟨_, isWanted⟩
        obtain ⟨count, isCycle⟩ := isHistory resource
        exact ⟨count, by rw [isCycle, if_pos isWanted]⟩
      · intro unwanted
        obtain ⟨count, isCycle⟩ := isHistory resource
        rw [isCycle, if_neg (fun isWanted => unwanted ⟨begins, isWanted⟩)]
    -- nothing happens in a video that is neither saved nor shown
    · obtain ⟨unnamed, hidden⟩ := not_or.mp asked
      rw [Option.not_isSome_iff_eq_none] at unnamed
      rw [Bool.not_eq_true] at hidden
      have isRun :
          (Reel.studio.film options screens keys).run.run reel =
            (.ok (), reel) := by
        rw [Studio.film, if_pos (by simp [unnamed, hidden])]
        rfl
      obtain ⟨isEvents, ifOk, _⟩ := Reel.play_of_run isRun
      refine ⟨by simp [ifOk rfl], fun resource => ⟨?_, ?_⟩⟩
      · rintro ⟨_, isWanted⟩
        cases resource with
        | file => simp [Resource.isWanted, unnamed] at isWanted
        | window => simp [Resource.isWanted, hidden] at isWanted
      · intro _
        rw [isEvents, fresh]
        rfl
  · obtain ⟨noEvents, problem⟩ := play_of_not_begins reel begins keys
    refine ⟨problem, fun resource => ⟨?_, ?_⟩⟩
    · rintro ⟨begun, _⟩
      exact absurd begun begins
    · intro _
      rw [noEvents, fresh]
      rfl

/-- Whatever fails between opening and closing, what a video has opened is
closed exactly once and not used behind that, unless the video breaks off before
its first frame. -/
theorem Reel.releases_unless_breaksOff
    (screens : List Screen) (fresh : reel.events = []) (handles : reel.Handles options)
    (keys : List Int) :
    let result := reel.play options screens keys
    (result.problem = some .noRate ↔ BreaksOff options screens) ∧
      ∀ resource,
        (.opens ∈ history resource result.events ↔
          Begins options screens ∧ resource.isWanted options = true) ∧
        (.closes ∈ history resource result.events ↔
          (Begins options screens ∧ resource.isWanted options = true) ∧
            ¬ BreaksOff options screens) ∧
        (ReleasedOnce resource result.events ↔
          ¬ (BreaksOff options screens ∧ resource.isWanted options = true)) := by
  intro result
  by_cases breaksOff : BreaksOff options screens
  · obtain ⟨isEvents, isProblem⟩ := play_of_breaksOff handles breaksOff keys
    refine ⟨iff_of_true isProblem breaksOff, fun resource => ?_⟩
    have isHistory :
        history resource result.events =
          if resource.isWanted options then [.opens] else [] := by
      rw [isEvents, fresh, List.nil_append, history_openings]
    by_cases isWanted : resource.isWanted options = true
    · rw [if_pos isWanted] at isHistory
      have unreleased : ¬ ReleasedOnce resource result.events := by
        intro released
        have closes := released.closes_mem (by simp [isHistory])
        simp [isHistory] at closes
      refine ⟨iff_of_true ?_ ⟨breaksOff.toBegins, isWanted⟩,
        iff_of_false ?_ (fun closes => closes.2 breaksOff),
        iff_of_false unreleased (not_not_intro ⟨breaksOff, isWanted⟩)⟩
      · simp [isHistory]
      · simp [isHistory]
    · rw [if_neg isWanted] at isHistory
      refine ⟨iff_of_false ?_ (fun opens => isWanted opens.2),
        iff_of_false ?_ (fun closes => isWanted closes.1.2),
        iff_of_true (releasedOnce_of_unopened ?_)
          (fun stays => isWanted stays.2)⟩
      all_goals simp [isHistory]
  · obtain ⟨noProblem, histories⟩ :=
      exists_history_play fresh handles breaksOff keys
    refine ⟨iff_of_false noProblem breaksOff, fun resource => ?_⟩
    obtain ⟨used, unused⟩ := histories resource
    by_cases due : Begins options screens ∧ resource.isWanted options = true
    · obtain ⟨count, isHistory⟩ := used due
      have isCycle : history resource result.events = _ := isHistory
      refine ⟨iff_of_true ?_ due, iff_of_true ?_ ⟨due, breaksOff⟩,
        iff_of_true (releasedOnce_of_cycle isCycle)
          (fun stays => breaksOff stays.1)⟩
      · simp [isCycle]
      · simp [isCycle]
    · have isHistory : history resource result.events = _ := unused due
      refine ⟨iff_of_false ?_ due, iff_of_false ?_ (fun closes => due closes.1),
        iff_of_true (releasedOnce_of_unopened ?_)
          (fun stays => breaksOff stays.1)⟩
      all_goals simp [isHistory]

end

/-- A video opens what it is made with as soon as it is begun.  Whatever the
options, the screens and the keys are and whichever sleeps are refused, what has
been opened is closed exactly once and not used behind that, unless the video is
in a window and has no frames in a second.  Then it breaks off, and nothing of
what has been opened is closed. -/
theorem play_releases_unless_breaksOff
    (options : Options) (screens : List Screen) (keys : List Int)
    (clock : Clock) (refuses : Float → Bool) :
    let result := play options screens keys clock refuses
    (result.problem = some .noRate ↔ BreaksOff options screens) ∧
      ∀ resource,
        (.opens ∈ history resource result.events ↔
          Begins options screens ∧ resource.isWanted options = true) ∧
        (.closes ∈ history resource result.events ↔
          (Begins options screens ∧ resource.isWanted options = true) ∧
            ¬ BreaksOff options screens) ∧
        (ReleasedOnce resource result.events ↔
          ¬ (BreaksOff options screens ∧ resource.isWanted options = true)) := by
  have handles : (Reel.willing refuses [] clock).Handles options :=
    fun _ _ _ => rfl
  exact Reel.releases_unless_breaksOff screens rfl handles keys

/-- A video whose rate is not a number is paused and then ended by a key. -/
theorem play_releases_unless_breaksOff_paused :
    let result :=
      play { recorded with fps := 0 / 0 } dotAndBitmap [32, 97, 27] {}
    ∀ resource, .opens ∈ history resource result.events ∧
      ReleasedOnce resource result.events := by
  intro result resource
  obtain ⟨_, releases⟩ :=
    play_releases_unless_breaksOff { recorded with fps := 0 / 0 } dotAndBitmap
      [32, 97, 27] {} fun _ => false
  obtain ⟨opens, _, released⟩ := releases resource
  have begins : Begins { recorded with fps := 0 / 0 } dotAndBitmap :=
    { filled := by simp [dotAndBitmap]
      shaped := by simp [dotAndBitmap]
      named := by decide }
  refine ⟨opens.mpr ⟨begins, ?_⟩, released.mpr ?_⟩
  · cases resource <;> decide
  · rintro ⟨breaksOff, _⟩
    exact absurd breaksOff.rateless (by decide)

/-- A video with a file and a window and with no frames in a second. -/
def rateless : Options :=
  { filename := some "run.mp4", fps := 0, scale := 1, display := true }

/-- Neither the file nor the window is released. -/
theorem rateless_video_stays_open :
    let result := play rateless [.cells (.singleton ⟨0, 0⟩)] [] {}
    result.problem = some .noRate ∧
      ¬ ReleasedOnce .file result.events ∧
      ¬ ReleasedOnce .window result.events := by
  have breaksOff : BreaksOff rateless [.cells (.singleton ⟨0, 0⟩)] :=
    { filled := by simp
      shaped := by simp
      named := by decide
      shows := rfl
      rateless := by decide }
  have handles : ({} : Reel).Handles rateless := fun _ _ _ => rfl
  obtain ⟨noRate, releases⟩ :=
    Reel.releases_unless_breaksOff [.cells (.singleton ⟨0, 0⟩)] rfl handles []
  refine ⟨noRate.mpr breaksOff, fun released => ?_, fun released => ?_⟩
  · exact (releases .file).2.2.mp released ⟨breaksOff, by decide⟩
  · exact (releases .window).2.2.mp released ⟨breaksOff, rfl⟩

end Chip8.Video
