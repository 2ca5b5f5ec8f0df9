/-!
# Finite sets as increasing lists

The lit cells of a screen and the held keys of a keypad are finite sets.  A set
is stored as the list of its members in increasing order, without repetition.
Two sets with the same members are therefore equal, the least member is the
head of the list, and a sweep over two lists computes the set operations.
-/

namespace Chip8

/-- Every member of the list is below all members that follow it. -/
def Increasing {α : Type} [Ord α] (list : List α) : Prop :=
  list.Pairwise fun first second => compare first second = .lt

instance {α : Type} [Ord α] (list : List α) : Decidable (Increasing list) :=
  inferInstanceAs (Decidable (list.Pairwise _))

/-- A finite set of `α`, stored as a strictly increasing list. -/
structure SortedSet (α : Type) [Ord α] where
  toList : List α
  /-- Every member is below all members that follow it. -/
  increasing : Increasing toList
  deriving DecidableEq

namespace SortedSet

variable {α : Type} [Ord α]

instance : Membership α (SortedSet α) where
  mem set member := member ∈ set.toList

def empty : SortedSet α := ⟨[], .nil⟩

instance : EmptyCollection (SortedSet α) := ⟨empty⟩

instance : Inhabited (SortedSet α) := ⟨empty⟩

def isEmpty (set : SortedSet α) : Bool := set.toList.isEmpty

def size (set : SortedSet α) : Nat := set.toList.length

/-- The least member, if there is one. -/
def min? (set : SortedSet α) : Option α := set.toList.head?

def contains (set : SortedSet α) (member : α) : Bool :=
  set.toList.any fun other => compare other member == .eq

def filter (set : SortedSet α) (keep : α → Bool) : SortedSet α :=
  ⟨set.toList.filter keep, set.increasing.filter keep⟩

def erase (set : SortedSet α) (member : α) : SortedSet α :=
  set.filter fun other => compare other member != .eq

/-! ## Sweeps over increasing lists

Each sweep walks the first list and drops from the second what lies below the
current member, so its cost is the sum of the two lengths.
-/

/-- The part of an increasing list that lies below `member`. -/
def below (member : α) (list : List α) : List α :=
  list.takeWhile fun other => compare other member == .lt

/-- The part of an increasing list that does not lie below `member`. -/
def notBelow (member : α) (list : List α) : List α :=
  list.dropWhile fun other => compare other member == .lt

/-- Whether the first element of the list, if any, equals `member`. -/
def startsWith (member : α) (list : List α) : Bool :=
  list.head?.any fun other => compare member other == .eq

/-- The members of the first list that the second lacks. -/
def sdiffList : List α → List α → List α
  | [], _ => []
  | first :: rest, others =>
      let remaining := notBelow first others
      if startsWith first remaining then sdiffList rest remaining
      else first :: sdiffList rest remaining

/-- The members of at least one of the two lists. -/
def unionList : List α → List α → List α
  | [], others => others
  | first :: rest, others =>
      let remaining := notBelow first others
      below first others ++ first ::
        unionList rest (if startsWith first remaining then remaining.tail else remaining)

def meetsList : List α → List α → Bool
  | [], _ => false
  | first :: rest, others =>
      let remaining := notBelow first others
      startsWith first remaining || meetsList rest remaining

/-! ## The sweeps keep the order -/

theorem mem_of_mem_sdiffList {member : α} {list others : List α}
    (belongs : member ∈ sdiffList list others) : member ∈ list := by
  induction list generalizing others with
  | nil => simp [sdiffList] at belongs
  | cons first rest inductionHypothesis =>
      simp only [sdiffList] at belongs
      split at belongs <;> grind

theorem increasing_sdiffList {list others : List α}
    (increasing : Increasing list) : Increasing (sdiffList list others) := by
  induction list generalizing others with
  | nil => simpa [sdiffList] using increasing
  | cons first rest inductionHypothesis =>
      have ⟨belowRest, restIncreasing⟩ := List.pairwise_cons.mp increasing
      simp only [sdiffList]
      split
      · exact inductionHypothesis restIncreasing
      · refine List.pairwise_cons.mpr ⟨?_, inductionHypothesis restIncreasing⟩
        intro other belongs
        exact belowRest other (mem_of_mem_sdiffList belongs)

theorem mem_of_mem_unionList {member : α} {list others : List α}
    (belongs : member ∈ unionList list others) :
    member ∈ list ∨ member ∈ others := by
  induction list generalizing others with
  | nil => exact .inr (by simpa [unionList] using belongs)
  | cons first rest inductionHypothesis =>
      have dropped : ∀ other ∈ notBelow first others, other ∈ others :=
        fun _ => (List.dropWhile_sublist _).mem
      simp only [unionList, List.mem_append, List.mem_cons] at belongs
      rcases belongs with early | rfl | late
      · exact .inr ((List.takeWhile_sublist _).mem early)
      · exact .inl List.mem_cons_self
      · rcases inductionHypothesis late with inRest | inRemaining
        · exact .inl (List.mem_cons_of_mem _ inRest)
        · split at inRemaining
          · exact .inr (dropped _ (List.mem_of_mem_tail inRemaining))
          · exact .inr (dropped _ inRemaining)

variable [Std.TransOrd α]

/-- In an increasing list, what is not below `member` equals it at the start
and lies above it from there on. -/
theorem above_of_mem_notBelow {member other : α} {others : List α}
    (increasing : Increasing others)
    (belongs : other ∈ (if startsWith member (notBelow member others)
      then (notBelow member others).tail else notBelow member others)) :
    compare member other = .lt := by
  induction others with
  | nil => simp [notBelow, startsWith] at belongs
  | cons first rest inductionHypothesis =>
      have ⟨belowRest, restIncreasing⟩ := List.pairwise_cons.mp increasing
      simp only [notBelow, List.dropWhile_cons] at belongs inductionHypothesis
      by_cases less : compare first member = .lt
      · simp only [less, beq_self_eq_true, if_true] at belongs
        exact inductionHypothesis restIncreasing belongs
      · simp only [beq_iff_eq, less, if_false] at belongs
        cases comparison : compare member first with
        | lt =>
            simp only [startsWith, List.head?_cons, Option.any_some, comparison] at belongs
            rcases List.mem_cons.mp belongs with rfl | inRest
            · exact comparison
            · exact Std.TransCmp.lt_trans comparison (belowRest other inRest)
        | eq =>
            simp only [startsWith, List.head?_cons, Option.any_some, comparison] at belongs
            exact Std.TransCmp.lt_of_eq_of_lt comparison (belowRest other belongs)
        | gt => exact absurd (Std.OrientedCmp.gt_iff_lt.mp comparison) less

theorem increasing_unionList {list others : List α}
    (listIncreasing : Increasing list) (othersIncreasing : Increasing others) :
    Increasing (unionList list others) := by
  induction list generalizing others with
  | nil => simpa [unionList] using othersIncreasing
  | cons first rest inductionHypothesis =>
      have ⟨belowRest, restIncreasing⟩ := List.pairwise_cons.mp listIncreasing
      have early : ∀ other ∈ below first others, compare other first = .lt := by
        intro other belongs
        simpa using List.all_eq_true.mp List.all_takeWhile other belongs
      have remainingIncreasing : Increasing
          (if startsWith first (notBelow first others)
            then (notBelow first others).tail else notBelow first others) := by
        have dropped := othersIncreasing.sublist
          (List.dropWhile_sublist fun other => compare other first == .lt)
        split
        · exact dropped.sublist (List.tail_sublist _)
        · exact dropped
      have late : ∀ other ∈ unionList rest
            (if startsWith first (notBelow first others)
              then (notBelow first others).tail else notBelow first others),
          compare first other = .lt := by
        intro other belongs
        rcases mem_of_mem_unionList belongs with inRest | inRemaining
        · exact belowRest other inRest
        · exact above_of_mem_notBelow othersIncreasing inRemaining
      refine List.pairwise_append.mpr
        ⟨othersIncreasing.sublist (List.takeWhile_sublist _),
          List.pairwise_cons.mpr
            ⟨late, inductionHypothesis restIncreasing remainingIncreasing⟩, ?_⟩
      intro lower belongsLower upper belongsUpper
      rcases List.mem_cons.mp belongsUpper with rfl | later
      · exact early lower belongsLower
      · exact Std.TransCmp.lt_trans (early lower belongsLower) (late upper later)

/-! ## Set operations -/

def sdiff (set other : SortedSet α) : SortedSet α :=
  ⟨sdiffList set.toList other.toList, increasing_sdiffList set.increasing⟩

/-- The members of at least one of the two sets. -/
def union (set other : SortedSet α) : SortedSet α :=
  ⟨unionList set.toList other.toList,
    increasing_unionList set.increasing other.increasing⟩

/-- The members of exactly one of the two sets. -/
def symmDiff (set other : SortedSet α) : SortedSet α :=
  (set.sdiff other).union (other.sdiff set)

def meets (set other : SortedSet α) : Bool :=
  meetsList set.toList other.toList

def singleton (member : α) : SortedSet α :=
  ⟨[member], List.pairwise_singleton _ _⟩

def insert (set : SortedSet α) (member : α) : SortedSet α :=
  (singleton member).union set

def ofList (members : List α) : SortedSet α :=
  members.foldr (fun member set => set.insert member) empty

end SortedSet

end Chip8
