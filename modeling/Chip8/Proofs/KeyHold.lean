import Chip8.Proofs.SortedSet
import Chip8.Proofs.TypedTokens

/-!
# How long keys are held

A stroke holds a key for a number of frames, and a read that delivers keys is a
frame.  The table of holds is a function of the history of strokes and reads:
a key is held as long as fewer reads than that number have followed its latest
stroke.  A read that finds a request to quit registers the strokes before it
and is no frame.
-/

namespace Chip8

namespace Keyboard

/-! ## Histories -/

/-- A stroke of a key, or a read that delivers keys. -/
inductive Mark where
  | struck (key : Key)
  | read
  deriving DecidableEq, Repr

/-- The latest stroke of a key was followed by a number of reads. -/
def ReadsSince (history : List Mark) (key : Key) (reads : Nat) : Prop :=
  ∃ earlier later,
    history = earlier ++ Mark.struck key :: later ∧
      Mark.struck key ∉ later ∧ later.count Mark.read = reads

/-- Where a stroke stands in a history with one more mark. -/
theorem concat_eq_split_iff
    {history earlier later : List Mark} {last mark : Mark} :
    history ++ [last] = earlier ++ mark :: later ↔
      history = earlier ∧ last = mark ∧ later = [] ∨
        ∃ middle, history = earlier ++ mark :: middle ∧
          later = middle ++ [last] := by
  rcases List.eq_nil_or_concat later with isNil | ⟨middle, ending, isConcat⟩
  · rw [isNil, List.append_singleton_inj]
    simp
  · rw [List.concat_eq_append] at isConcat
    rw [isConcat, ← List.cons_append, ← List.append_assoc,
      List.append_singleton_inj]
    constructor
    · intro same
      exact .inr ⟨middle, same.1, by rw [same.2]⟩
    · intro places
      rcases places with ⟨_, _, isNil⟩ | ⟨other, isHistory, isLater⟩
      · simp at isNil
      · obtain ⟨sameMiddle, sameLast⟩ := List.append_singleton_inj.mp isLater
        rw [sameMiddle, sameLast]
        exact ⟨isHistory, rfl⟩

private theorem not_readsSince_nil (key : Key) (reads : Nat) :
    ¬ ReadsSince [] key reads := by
  intro since
  obtain ⟨earlier, later, split, _⟩ := since
  simp at split

private theorem readsSince_struck_self_iff
    {history : List Mark} {key : Key} {reads : Nat} :
    ReadsSince (history ++ [Mark.struck key]) key reads ↔ reads = 0 := by
  constructor
  · intro since
    obtain ⟨earlier, later, split, isLatest, isCount⟩ := since
    rcases concat_eq_split_iff.mp split with ⟨_, _, isNil⟩ | ⟨middle, _, isLater⟩
    · rw [← isCount, isNil]
      rfl
    · rw [isLater] at isLatest
      simp at isLatest
  · intro isZero
    exact ⟨history, [], rfl, by simp, isZero.symm⟩

/-- Other marks leave the latest stroke of a key where it is. -/
theorem readsSince_concat_iff
    {history : List Mark} {mark : Mark} {key : Key} {reads : Nat}
    (notStruck : mark ≠ Mark.struck key) :
    ReadsSince (history ++ [mark]) key reads ↔
      ∃ fewer, ReadsSince history key fewer ∧
        reads = fewer + [mark].count Mark.read := by
  constructor
  · intro since
    obtain ⟨earlier, later, split, isLatest, isCount⟩ := since
    rcases concat_eq_split_iff.mp split with
      ⟨_, isStruck, _⟩ | ⟨middle, isHistory, isLater⟩
    · exact absurd isStruck notStruck
    · rw [isLater, List.mem_append, not_or] at isLatest
      rw [isLater, List.count_append] at isCount
      exact ⟨_, ⟨earlier, middle, isHistory, isLatest.1, rfl⟩, isCount.symm⟩
  · intro since
    obtain ⟨fewer, ⟨earlier, later, split, isLatest, isCount⟩, isSum⟩ := since
    refine ⟨earlier, later ++ [mark], by simp [split], ?_, ?_⟩
    · simp [isLatest, notStruck.symm]
    · rw [List.count_append, isCount, isSum]

/-! ## The table of holds -/

/-- The table holds a key for the frames that are left of the given number
after the reads since its latest stroke. -/
def Holds.Follows (holds : Holds) (frames : Nat) (history : List Mark) : Prop :=
  ∀ key left, holds.get key = some left ↔
    0 < left ∧ ∃ reads, ReadsSince history key reads ∧ reads + left = frames

private theorem Holds.get_released (key : Key) : Holds.released.get key = none :=
  Vector.getElem_replicate key.isLt

private theorem Holds.get_age (holds : Holds) (key : Key) :
    holds.age.get key = ((holds.get key).filter (1 < ·)).map (· - 1) :=
  Vector.getElem_map _ key.isLt

variable {holds : Holds} {frames : Nat} {history : List Mark}

private theorem Holds.follows_released (frames : Nat) :
    Holds.released.Follows frames [] := by
  intro key left
  rw [Holds.get_released]
  simp [not_readsSince_nil]

/-- A struck key counts as held for the full number of frames. -/
theorem Holds.Follows.strike
    (follows : holds.Follows frames history) (positive : 0 < frames)
    (struck : Key) :
    (holds.strike struck frames).Follows frames (history ++ [Mark.struck struck]) := by
  intro key left
  rw [Holds.get_strike]
  by_cases isStruck : key = struck
  · -- A stroke starts the count again, whatever was left.
    rw [if_pos isStruck, isStruck, Option.some_inj]
    simp only [readsSince_struck_self_iff]
    constructor
    · intro isLeft
      exact ⟨by omega, 0, rfl, by omega⟩
    · intro since
      obtain ⟨_, reads, isZero, isSum⟩ := since
      omega
  · have notStruck : Mark.struck struck ≠ .struck key := by
      intro same
      exact isStruck (Mark.struck.inj same).symm
    rw [if_neg isStruck, follows key left]
    simp [readsSince_concat_iff notStruck]

/-- A reading uses up one frame of every key. -/
theorem Holds.Follows.age (follows : holds.Follows frames history) :
    holds.age.Follows frames (history ++ [Mark.read]) := by
  intro key left
  have notStruck : Mark.read ≠ .struck key := by simp
  rw [Holds.get_age]
  simp only [readsSince_concat_iff notStruck]
  constructor
  · intro aged
    obtain ⟨more, kept, isLeft⟩ := Option.map_eq_some_iff.mp aged
    obtain ⟨isMore, outlives⟩ := Option.filter_eq_some_iff.mp kept
    obtain ⟨_, reads, since, isSum⟩ := (follows key more).mp isMore
    have isLong : 1 < more := of_decide_eq_true outlives
    exact ⟨by omega, reads + 1, ⟨reads, since, rfl⟩, by omega⟩
  · intro since
    obtain ⟨isPositive, reads, ⟨fewer, sinceBefore, isReads⟩, isSum⟩ := since
    have isReadsNumber : reads = fewer + 1 := isReads
    -- A key that is still held afterwards had one frame more before.
    have before : holds.get key = some (left + 1) :=
      (follows key (left + 1)).mpr ⟨by omega, fewer, sinceBefore, by omega⟩
    have outlives : decide (1 < left + 1) = true := decide_eq_true (by omega)
    rw [before, Option.filter_some, if_pos outlives]
    rfl

theorem Holds.Follows.strikeAll
    (follows : holds.Follows frames history) (positive : 0 < frames)
    (keys : List Key) :
    (holds.strikeAll keys frames).Follows frames
      (history ++ keys.map Mark.struck) := by
  induction keys generalizing holds history with
  | nil =>
      rw [List.map_nil, List.append_nil]
      exact follows
  | cons first rest inductionHypothesis =>
      have later := inductionHypothesis (follows.strike positive first)
      rwa [List.append_assoc] at later

/-- A code is held if its key has frames left. -/
theorem Holds.mem_keys_iff {code : Int} :
    code ∈ holds.keys ↔
      ∃ key left, code = Layout.code key ∧ holds.get key = some left := by
  rw [Holds.keys, SortedSet.mem_ofList, List.mem_map]
  constructor
  · intro listed
    obtain ⟨entry, isEntry, isCode⟩ := listed
    obtain ⟨key, _, isKey⟩ := List.mem_filterMap.mp isEntry
    obtain ⟨left, isLeft, same⟩ := Option.map_eq_some_iff.mp isKey
    rw [← same] at isCode
    exact ⟨key, left, isCode.symm, isLeft⟩
  · intro held
    obtain ⟨key, left, isCode, isLeft⟩ := held
    refine ⟨(key, left), List.mem_filterMap.mpr ⟨key, List.mem_finRange key, ?_⟩,
      isCode.symm⟩
    rw [isLeft]
    rfl

/-- A key is delivered if at most so many reads, with the one at hand, have
followed its latest stroke. -/
theorem Holds.Follows.mem_keys_iff
    (follows : holds.Follows frames history) {code : Int} :
    code ∈ holds.keys ↔
      ∃ key reads, code = Layout.code key ∧
        ReadsSince (history ++ [Mark.read]) key reads ∧ reads ≤ frames := by
  have notStruck : ∀ key, Mark.read ≠ .struck key := by simp
  rw [Holds.mem_keys_iff]
  constructor
  · intro held
    obtain ⟨key, left, isCode, isLeft⟩ := held
    obtain ⟨_, reads, since, isSum⟩ := (follows key left).mp isLeft
    refine ⟨key, reads + 1, isCode, ?_, by omega⟩
    exact (readsSince_concat_iff (notStruck key)).mpr ⟨reads, since, rfl⟩
  · intro recent
    obtain ⟨key, reads, isCode, since, inTime⟩ := recent
    obtain ⟨fewer, sinceBefore, isReads⟩ :=
      (readsSince_concat_iff (notStruck key)).mp since
    have isReadsNumber : reads = fewer + 1 := isReads
    refine ⟨key, frames - fewer, isCode, ?_⟩
    exact (follows key _).mpr ⟨by omega, fewer, sinceBefore, by omega⟩

def strokeMarks (text : String) : List Mark :=
  (strokes (tokens text.toList)).map Mark.struck

def AsksToQuit (text : String) : Prop :=
  ∃ token ∈ tokens text.toList, token.Quits

instance (text : String) : Decidable (AsksToQuit text) :=
  inferInstanceAs (Decidable (∃ token ∈ tokens text.toList, token.Quits))

end Keyboard

namespace Terminal

open Keyboard

/-! ## Sessions at the keyboard -/

/-- A use of the keyboard: text is fed, or the keys are read with some text
pending. -/
inductive Use where
  | feed (text : String)
  | read (text : String)

/-- The marks that a use leaves in the history. -/
def Use.marks : Use → List Mark
  | feed text => strokeMarks text
  | read text =>
      strokeMarks text ++ if AsksToQuit text then [] else [Mark.read]

def handle (terminal : Terminal) : Use → Terminal
  | .feed text => (terminal.feed text).2
  | .read text => (terminal.readKeys text).2

theorem goesOn_feed_iff {terminal : Terminal} {text : String} :
    (terminal.feed text).1 = true ↔ ¬ AsksToQuit text := by
  rw [feed_eq, decide_eq_true_iff, AsksToQuit]
  simp

theorem readKeys_of_quit
    (terminal : Terminal) {text : String} (quits : AsksToQuit text) :
    terminal.readKeys text = (none, (terminal.feed text).2) := by
  have stops : ¬ (terminal.feed text).1 = true :=
    fun goesOn => goesOn_feed_iff.mp goesOn quits
  rw [readKeys]
  exact if_neg stops

theorem readKeys_of_goesOn
    (terminal : Terminal) {text : String} (goesOn : ¬ AsksToQuit text) :
    terminal.readKeys text =
      (some (terminal.feed text).2.holds.keys,
        { (terminal.feed text).2 with
          holds := (terminal.feed text).2.holds.age }) := by
  rw [readKeys]
  exact if_pos (goesOn_feed_iff.mpr goesOn)

/-- The terminal holds keys for a number of frames as the history says. -/
structure Follows (terminal : Terminal) (frames : Nat) (history : List Mark) :
    Prop where
  holdFrames : terminal.holdFrames = frames
  holds : terminal.holds.Follows frames history

variable {terminal : Terminal} {frames : Nat} {history : List Mark}

theorem Follows.feed
    (follows : terminal.Follows frames history) (positive : 0 < frames)
    (text : String) :
    (terminal.feed text).2.Follows frames (history ++ strokeMarks text) := by
  rw [feed_eq]
  refine ⟨follows.holdFrames, ?_⟩
  rw [follows.holdFrames]
  exact follows.holds.strikeAll positive _

/-- Whatever is done with a terminal, its holds follow the history. -/
theorem Follows.handle
    (follows : terminal.Follows frames history) (positive : 0 < frames)
    (action : Use) :
    (terminal.handle action).Follows frames (history ++ action.marks) := by
  cases action with
  | feed text => exact follows.feed positive text
  | read text =>
      have fed := follows.feed positive text
      by_cases quits : AsksToQuit text
      · rw [Terminal.handle, readKeys_of_quit terminal quits, Use.marks, if_pos quits,
          List.append_nil]
        exact fed
      · rw [Terminal.handle, readKeys_of_goesOn terminal quits, Use.marks,
          if_neg quits, ← List.append_assoc]
        exact ⟨fed.holdFrames, fed.holds.age⟩

private theorem Follows.handleAll
    (follows : terminal.Follows frames history) (positive : 0 < frames)
    (actions : List Use) :
    (actions.foldl Terminal.handle terminal).Follows frames
      (history ++ actions.flatMap Use.marks) := by
  induction actions generalizing terminal history with
  | nil =>
      rw [List.flatMap_nil, List.append_nil]
      exact follows
  | cons action rest inductionHypothesis =>
      rw [List.flatMap_cons, ← List.append_assoc]
      exact inductionHypothesis (follows.handle positive action)

private theorem follows_created (frames : Nat) :
    Terminal.Follows { holdFrames := frames } frames [] :=
  ⟨rfl, Holds.follows_released frames⟩

/-- Whatever has been fed and read before, the counts of the table lie between
one and the number of frames.  A read that finds no request to quit delivers
the keys whose latest stroke has been followed by at most so many such reads,
itself included.  A read that finds one delivers nothing and takes no frame from
any key. -/
theorem held_keys_follow_history
    {holdFrames : Int} (positive : 1 ≤ holdFrames) :
    ∃ terminal, create holdFrames = .ok terminal ∧
      ∀ actions : List Use,
        let before := actions.foldl Terminal.handle terminal
        let history := actions.flatMap Use.marks
        (∀ key left, before.holds.get key = some left →
          1 ≤ left ∧ (left : Int) ≤ holdFrames) ∧
        ∀ text,
          ((before.readKeys text).1 = none ↔ AsksToQuit text) ∧
          (∀ keys, (before.readKeys text).1 = some keys →
            ∀ code, code ∈ keys ↔
              ∃ (key : Key) (reads : Nat), code = key.val ∧
                ReadsSince (history ++ strokeMarks text ++ [Mark.read]) key reads ∧
                (reads : Int) ≤ holdFrames) ∧
          ((before.readKeys text).1 = none →
            ∀ key, (before.readKeys text).2.holds.get key =
              if Mark.struck key ∈ strokeMarks text then some holdFrames.toNat
              else before.holds.get key) := by
  have isCreated :
      create holdFrames = .ok { holdFrames := holdFrames.toNat } :=
    if_neg (by omega)
  refine ⟨_, isCreated, ?_⟩
  intro actions before history
  have nonnegative : 0 ≤ holdFrames := by omega
  have atLeastOne : 0 < holdFrames.toNat := by omega
  have follows : before.Follows holdFrames.toNat history :=
    (follows_created holdFrames.toNat).handleAll atLeastOne actions
  refine ⟨?_, ?_⟩
  · intro key left isLeft
    obtain ⟨isPositive, reads, _, isSum⟩ := (follows.holds key left).mp isLeft
    omega
  · intro text
    have fed := follows.feed atLeastOne text
    by_cases quits : AsksToQuit text
    · rw [readKeys_of_quit before quits]
      refine ⟨by simp [quits], by simp, ?_⟩
      intro _ key
      rw [feed_eq, Holds.get_strikeAll, follows.holdFrames, strokeMarks]
      simp
    · rw [readKeys_of_goesOn before quits]
      refine ⟨by simp [quits], ?_, by simp⟩
      intro keys isKeys code
      cases isKeys
      rw [fed.holds.mem_keys_iff]
      simp only [Int.le_toNat nonnegative]
      exact Iff.rfl

/-- With a single frame, keys struck before a read and before a request to quit
between two reads. -/
theorem held_keys_follow_history_single :
    (1 : Int) ≤ 1 ∧
      ∃ terminal, create 1 = .ok terminal ∧
        ∀ keys,
          (([Use.read "xw", .read "e\x1bq", .feed "W"].foldl Terminal.handle
            terminal).readKeys "\x1b[A").1 = some keys →
          ∀ code, code ∈ keys ↔
            ∃ (key : Key) (reads : Nat), code = key.val ∧
              ReadsSince
                [Mark.struck 0, .struck 5, .read, .struck 6, .struck 5, .read]
                key reads ∧
              (reads : Int) ≤ 1 := by
  have isHistory :
      [Use.read "xw", .read "e\x1bq", .feed "W"].flatMap Use.marks ++
          strokeMarks "\x1b[A" ++ [Mark.read] =
        [Mark.struck 0, .struck 5, .read, .struck 6, .struck 5, .read] := by
    decide +kernel
  obtain ⟨terminal, isCreated, follows⟩ :=
    held_keys_follow_history (show (1 : Int) ≤ 1 by decide)
  have delivered :=
    ((follows [Use.read "xw", .read "e\x1bq", .feed "W"]).2 "\x1b[A").2.1
  rw [isHistory] at delivered
  exact ⟨by decide, terminal, isCreated, delivered⟩

end Terminal

end Chip8
