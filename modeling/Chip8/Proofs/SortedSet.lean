import Mathlib.Data.List.Sort
import Mathlib.Order.Compare
import Chip8.SortedSet

/-!
# Members of sorted sets

The sweeps over increasing lists compute the set operations: each operation is
characterised by the members of its result, and a set is determined by its
members.
-/

namespace Chip8.SortedSet

variable {α : Type} [Ord α] [Std.TransOrd α]

/-! ## Parts of an increasing list -/

omit [Std.TransOrd α] in
theorem increasing_notBelow
    {list : List α} (member : α) (increasing : Increasing list) :
    Increasing (notBelow member list) :=
  increasing.sublist (List.dropWhile_sublist _)

/-- In an increasing list nothing is lost by dropping up to the first member
that is not below. -/
theorem mem_notBelow_iff
    {member other : α} {list : List α} (increasing : Increasing list) :
    other ∈ notBelow member list ↔
      other ∈ list ∧ compare other member ≠ .lt := by
  induction list with
  | nil => simp [notBelow]
  | cons first rest inductionHypothesis =>
      obtain ⟨belowRest, restIncreasing⟩ := List.pairwise_cons.mp increasing
      simp only [notBelow, List.dropWhile_cons] at inductionHypothesis ⊢
      by_cases less : compare first member = .lt
      · simp only [less, beq_self_eq_true, if_true]
        rw [inductionHypothesis restIncreasing]
        constructor
        · rintro ⟨inRest, notLess⟩
          exact ⟨List.mem_cons_of_mem _ inRest, notLess⟩
        · rintro ⟨inList, notLess⟩
          rcases List.mem_cons.mp inList with rfl | inRest
          · exact absurd less notLess
          · exact ⟨inRest, notLess⟩
      · simp only [beq_iff_eq, less, if_false]
        constructor
        · intro inList
          refine ⟨inList, ?_⟩
          intro otherLess
          rcases List.mem_cons.mp inList with rfl | inRest
          · exact less otherLess
          · exact less
              (Std.TransCmp.lt_trans (belowRest other inRest) otherLess)
        · exact And.left

private theorem mem_below_iff
    {member other : α} {list : List α} (increasing : Increasing list) :
    other ∈ below member list ↔
      other ∈ list ∧ compare other member = .lt := by
  induction list with
  | nil => simp [below]
  | cons first rest inductionHypothesis =>
      obtain ⟨belowRest, restIncreasing⟩ := List.pairwise_cons.mp increasing
      simp only [below, List.takeWhile_cons] at inductionHypothesis ⊢
      by_cases less : compare first member = .lt
      · simp only [less, beq_self_eq_true, if_true, List.mem_cons]
        rw [inductionHypothesis restIncreasing]
        constructor
        · rintro (rfl | ⟨inRest, otherLess⟩)
          · exact ⟨.inl rfl, less⟩
          · exact ⟨.inr inRest, otherLess⟩
        · rintro ⟨rfl | inRest, otherLess⟩
          · exact .inl rfl
          · exact .inr ⟨inRest, otherLess⟩
      · simp only [beq_iff_eq, less, if_false, List.not_mem_nil, false_iff]
        rintro ⟨inList, otherLess⟩
        rcases List.mem_cons.mp inList with rfl | inRest
        · exact less otherLess
        · exact less
            (Std.TransCmp.lt_trans (belowRest other inRest) otherLess)

variable [Std.LawfulEqOrd α]

omit [Std.TransOrd α] in
@[simp]
theorem startsWith_cons_iff {member first : α} {rest : List α} :
    startsWith member (first :: rest) = true ↔ member = first := by
  simp [startsWith]

/-- The first element of what is not below `member` tells whether `member` is
in an increasing list. -/
theorem startsWith_notBelow_iff
    {member : α} {list : List α} (increasing : Increasing list) :
    startsWith member (notBelow member list) = true ↔ member ∈ list := by
  have selfNotLess : compare member member ≠ .lt := by simp
  have keptIncreasing := increasing_notBelow member increasing
  have kept : ∀ other, other ∈ notBelow member list ↔
      other ∈ list ∧ compare other member ≠ .lt :=
    fun _ => mem_notBelow_iff increasing
  cases shape : notBelow member list with
  | nil =>
      rw [shape] at kept
      simp only [startsWith, List.head?_nil, Option.any_none,
        Bool.false_eq_true, false_iff]
      intro inList
      exact List.not_mem_nil ((kept member).mpr ⟨inList, selfNotLess⟩)
  | cons first rest =>
      rw [shape] at kept keptIncreasing
      obtain ⟨belowRest, _⟩ := List.pairwise_cons.mp keptIncreasing
      obtain ⟨firstInList, firstNotLess⟩ :=
        (kept first).mp List.mem_cons_self
      rw [startsWith_cons_iff]
      constructor
      · rintro rfl
        exact firstInList
      · intro inList
        rcases List.mem_cons.mp ((kept member).mpr ⟨inList, selfNotLess⟩) with
          same | inRest
        · exact same
        · exact absurd (belowRest member inRest) firstNotLess

/-! ## The members that the sweeps compute -/

private theorem mem_sdiffList_iff
    {member : α} {list others : List α}
    (listIncreasing : Increasing list)
    (othersIncreasing : Increasing others) :
    member ∈ sdiffList list others ↔ member ∈ list ∧ member ∉ others := by
  induction list generalizing others with
  | nil => simp [sdiffList]
  | cons first rest inductionHypothesis =>
      obtain ⟨belowRest, restIncreasing⟩ := List.pairwise_cons.mp listIncreasing
      have inRemaining : ∀ other ∈ rest,
          (other ∈ notBelow first others ↔ other ∈ others) := by
        intro other inRest
        rw [mem_notBelow_iff othersIncreasing]
        have above : compare other first = .gt :=
          Std.OrientedCmp.gt_iff_lt.mpr (belowRest other inRest)
        exact ⟨And.left, fun inOthers => ⟨inOthers, by simp [above]⟩⟩
      have restMembers :=
        inductionHypothesis restIncreasing
          (increasing_notBelow first othersIncreasing)
      have restAgrees :
          member ∈ sdiffList rest (notBelow first others) ↔
            member ∈ rest ∧ member ∉ others := by
        rw [restMembers]
        exact and_congr_right fun inRest =>
          not_congr (inRemaining member inRest)
      have found :
          startsWith first (notBelow first others) = true ↔ first ∈ others :=
        startsWith_notBelow_iff othersIncreasing
      simp only [sdiffList, List.mem_cons]
      split
      · rename_i starts
        rw [restAgrees]
        have firstInOthers := found.mp starts
        constructor
        · rintro ⟨inRest, absent⟩
          exact ⟨.inr inRest, absent⟩
        · rintro ⟨rfl | inRest, absent⟩
          · exact absurd firstInOthers absent
          · exact ⟨inRest, absent⟩
      · rename_i starts
        have firstAbsent : first ∉ others := fun inOthers =>
          starts (found.mpr inOthers)
        rw [List.mem_cons, restAgrees]
        constructor
        · rintro (rfl | ⟨inRest, absent⟩)
          · exact ⟨.inl rfl, firstAbsent⟩
          · exact ⟨.inr inRest, absent⟩
        · rintro ⟨rfl | inRest, absent⟩
          · exact .inl rfl
          · exact .inr ⟨inRest, absent⟩

private theorem mem_unionList_iff
    {member : α} {list others : List α}
    (listIncreasing : Increasing list)
    (othersIncreasing : Increasing others) :
    member ∈ unionList list others ↔ member ∈ list ∨ member ∈ others := by
  induction list generalizing others with
  | nil => simp [unionList]
  | cons first rest inductionHypothesis =>
      obtain ⟨_, restIncreasing⟩ := List.pairwise_cons.mp listIncreasing
      have keptIncreasing := increasing_notBelow first othersIncreasing
      have kept : member ∈ notBelow first others ↔
          member ∈ others ∧ compare member first ≠ .lt :=
        mem_notBelow_iff othersIncreasing
      simp only [unionList, List.mem_append, List.mem_cons]
      rw [mem_below_iff othersIncreasing]
      constructor
      · rintro (⟨inOthers, _⟩ | rfl | inUnion)
        · exact .inr inOthers
        · exact .inl (.inl rfl)
        · split at inUnion
          · rw [inductionHypothesis restIncreasing
              (keptIncreasing.sublist (List.tail_sublist _))] at inUnion
            rcases inUnion with inRest | inTail
            · exact .inl (.inr inRest)
            · exact .inr (kept.mp (List.mem_of_mem_tail inTail)).1
          · rw [inductionHypothesis restIncreasing keptIncreasing] at inUnion
            rcases inUnion with inRest | inKept
            · exact .inl (.inr inRest)
            · exact .inr (kept.mp inKept).1
      · rintro ((rfl | inRest) | inOthers)
        · exact .inr (.inl rfl)
        · refine .inr (.inr ?_)
          split
          · exact (inductionHypothesis restIncreasing
              (keptIncreasing.sublist (List.tail_sublist _))).mpr (.inl inRest)
          · exact (inductionHypothesis restIncreasing keptIncreasing).mpr
              (.inl inRest)
        · by_cases less : compare member first = .lt
          · exact .inl ⟨inOthers, less⟩
          · have inKept := kept.mpr ⟨inOthers, less⟩
            refine .inr ?_
            split
            · rename_i starts
              -- the head that is dropped is `first` itself
              cases shape : notBelow first others with
              | nil => simp [shape] at inKept
              | cons head tail =>
                  rw [shape] at inKept starts
                  obtain rfl := startsWith_cons_iff.mp starts
                  rcases List.mem_cons.mp inKept with rfl | inTail
                  · exact .inl rfl
                  · refine .inr ((inductionHypothesis restIncreasing ?_).mpr
                      (.inr inTail))
                    rw [shape] at keptIncreasing
                    exact keptIncreasing.sublist (List.tail_sublist _)
            · exact .inr ((inductionHypothesis restIncreasing
                keptIncreasing).mpr (.inr inKept))

private theorem meetsList_iff
    {list others : List α}
    (listIncreasing : Increasing list)
    (othersIncreasing : Increasing others) :
    meetsList list others = true ↔
      ∃ member, member ∈ list ∧ member ∈ others := by
  induction list generalizing others with
  | nil => simp [meetsList]
  | cons first rest inductionHypothesis =>
      obtain ⟨belowRest, restIncreasing⟩ := List.pairwise_cons.mp listIncreasing
      simp only [meetsList, Bool.or_eq_true]
      rw [startsWith_notBelow_iff othersIncreasing,
        inductionHypothesis restIncreasing
          (increasing_notBelow first othersIncreasing)]
      constructor
      · rintro (inOthers | ⟨member, inRest, inKept⟩)
        · exact ⟨first, List.mem_cons_self, inOthers⟩
        · exact ⟨member, List.mem_cons_of_mem _ inRest,
            ((mem_notBelow_iff othersIncreasing).mp inKept).1⟩
      · rintro ⟨member, inList, inOthers⟩
        rcases List.mem_cons.mp inList with rfl | inRest
        · exact .inl inOthers
        · have above : compare member first = .gt :=
            Std.OrientedCmp.gt_iff_lt.mpr (belowRest member inRest)
          exact .inr ⟨member, inRest,
            (mem_notBelow_iff othersIncreasing).mpr
              ⟨inOthers, by simp [above]⟩⟩

/-! ## Members of the set operations -/

/-- Two sets with the same members are equal. -/
theorem ext_mem
    {first second : SortedSet α}
    (same : ∀ member, member ∈ first ↔ member ∈ second) :
    first = second := by
  have irreflexive : Std.Irrefl fun lower upper : α =>
      compare lower upper = .lt :=
    ⟨fun member => by simp⟩
  have antisymmetric : Std.Antisymm fun lower upper : α =>
      compare lower upper = .lt :=
    ⟨fun lower upper less greater => by
      have reversed := Std.OrientedCmp.gt_iff_lt.mpr greater
      simp [reversed] at less⟩
  cases first with
  | mk firstList firstIncreasing =>
      cases second with
      | mk secondList secondIncreasing =>
          have lists : firstList = secondList :=
            List.Pairwise.eq_of_mem_iff firstIncreasing secondIncreasing same
          subst lists
          rfl

omit [Std.TransOrd α] [Std.LawfulEqOrd α] in
@[simp]
theorem not_mem_empty (member : α) : member ∉ (∅ : SortedSet α) :=
  List.not_mem_nil

@[simp]
theorem mem_sdiff
    {member : α} {first second : SortedSet α} :
    member ∈ first.sdiff second ↔ member ∈ first ∧ member ∉ second :=
  mem_sdiffList_iff first.increasing second.increasing

@[simp]
theorem mem_union
    {member : α} {first second : SortedSet α} :
    member ∈ first.union second ↔ member ∈ first ∨ member ∈ second :=
  mem_unionList_iff first.increasing second.increasing

@[simp]
theorem mem_symmDiff
    {member : α} {first second : SortedSet α} :
    member ∈ first.symmDiff second ↔
      (member ∈ first ∧ member ∉ second) ∨
        (member ∈ second ∧ member ∉ first) := by
  rw [symmDiff, mem_union, mem_sdiff, mem_sdiff]

theorem meets_iff
    {first second : SortedSet α} :
    first.meets second = true ↔
      ∃ member, member ∈ first ∧ member ∈ second :=
  meetsList_iff first.increasing second.increasing

@[simp]
theorem mem_insert
    {member added : α} {set : SortedSet α} :
    member ∈ set.insert added ↔ member = added ∨ member ∈ set := by
  rw [insert, mem_union]
  exact or_congr_left List.mem_singleton

@[simp]
theorem mem_ofList
    {member : α} {members : List α} :
    member ∈ ofList members ↔ member ∈ members := by
  induction members with
  | nil => exact Iff.rfl
  | cons first rest inductionHypothesis =>
      rw [ofList, List.foldr_cons, mem_insert, List.mem_cons]
      exact or_congr_right inductionHypothesis

omit [Std.TransOrd α] [Std.LawfulEqOrd α] in
@[simp]
theorem mem_filter
    {member : α} {set : SortedSet α} {keep : α → Bool} :
    member ∈ set.filter keep ↔ member ∈ set ∧ keep member = true :=
  List.mem_filter

omit [Std.TransOrd α] in
@[simp]
theorem mem_erase
    {member removed : α} {set : SortedSet α} :
    member ∈ set.erase removed ↔ member ∈ set ∧ member ≠ removed := by
  change member ∈ set.toList.filter _ ↔ _
  rw [List.mem_filter, bne_iff_ne, ne_eq,
    Std.LawfulEqOrd.compare_eq_iff_eq]
  exact Iff.rfl

omit [Std.TransOrd α] in
theorem contains_iff
    {member : α} {set : SortedSet α} :
    set.contains member = true ↔ member ∈ set := by
  simp only [contains, List.any_eq_true, beq_iff_eq,
    Std.LawfulEqOrd.compare_eq_iff_eq]
  constructor
  · rintro ⟨_, belongs, rfl⟩
    exact belongs
  · intro belongs
    exact ⟨member, belongs, rfl⟩

/-- The least member is the member that no other member is below. -/
theorem min?_eq_some_iff
    {set : SortedSet Int} {least : Int} :
    set.min? = some least ↔
      least ∈ set ∧ ∀ other ∈ set, least ≤ other := by
  cases set with
  | mk list increasing =>
      change list.head? = some least ↔
        least ∈ list ∧ ∀ other ∈ list, least ≤ other
      cases list with
      | nil => simp
      | cons first rest =>
          obtain ⟨belowRest, _⟩ := List.pairwise_cons.mp increasing
          have firstLeast : ∀ other ∈ first :: rest, first ≤ other := by
            intro other belongs
            rcases List.mem_cons.mp belongs with rfl | inRest
            · exact Int.le_refl _
            · exact Int.le_of_lt
                (compare_lt_iff_lt.mp (belowRest other inRest))
          rw [List.head?_cons, Option.some.injEq]
          constructor
          · rintro rfl
            exact ⟨List.mem_cons_self, firstLeast⟩
          · rintro ⟨belongs, below⟩
            exact Int.le_antisymm (firstLeast least belongs)
              (below first List.mem_cons_self)

theorem exists_min?_of_ne_empty
    {set : SortedSet Int} (nonempty : set ≠ ∅) :
    ∃ least, set.min? = some least := by
  cases set with
  | mk list increasing =>
      cases list with
      | nil => exact absurd rfl nonempty
      | cons first rest => exact ⟨first, rfl⟩

theorem min?_toList (set : SortedSet Int) : set.toList.min? = set.min? := by
  apply Option.ext
  intro least
  rw [List.min?_eq_some_iff, min?_eq_some_iff]
  rfl

end Chip8.SortedSet
