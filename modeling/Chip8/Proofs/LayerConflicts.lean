import Chip8.Config.Load

/-!
# Where layers do not fit together

A value can have flaws of its own: keys that are none, and references that
cannot be read.  Two values can clash, if somewhere a table of one meets a list
of the other.  And the way of a key path through a value can be barred.  These
are conditions on the values themselves.  This module shows that they are what
the checks, the merging and the storing of values stumble over.
-/

namespace Chip8.Config

/-! ## Flaws of values -/

/-- What is wrong with a part of a value. -/
inductive ValueFlaw where
  /-- A key of a table is neither a text nor a number. -/
  | key
  | reference
  /-- A reference has a form that is not read here. -/
  | uncovered
  deriving DecidableEq, Repr

def ValueFlaw.class? : ValueFlaw → Option ErrorClass
  | key => some .value
  | reference => some .grammar
  | uncovered => none

def pieceFlaw? : Piece → Option ValueFlaw
  | .verbatim _ => none
  | .reference body =>
      match referencePath body with
      | .error .malformed => some .reference
      | .error .uncovered => some .uncovered
      | _ => none

def textFlaws (text : String) : List ValueFlaw :=
  if hasReference text.toList then
    match splitPieces (text.length + 1) [] text.toList with
    | none => [.reference]
    | some pieces => pieces.filterMap pieceFlaw?
  else []

def isKey : Value → Bool
  | .null | .list _ | .table _ => false
  | _ => true

mutual

/-- All flaws of a value, in the order in which it is read. -/
def flaws : Value → List ValueFlaw
  | .text text => textFlaws text
  | .list items => itemFlaws items
  | .table entries => entryFlaws entries
  | _ => []

def itemFlaws : List Value → List ValueFlaw
  | [] => []
  | item :: rest => flaws item ++ itemFlaws rest

def entryFlaws : List (Value × Value) → List ValueFlaw
  | [] => []
  | (key, value) :: rest =>
      (if isKey key then [] else [.key]) ++ flaws value ++ entryFlaws rest

end

@[simp]
theorem ContentError.class?_behind
    (step : Step) (error : ContentError) :
    (error.behind step).class? = error.class? := by
  cases error with
  | key steps => rfl
  | reference error => rfl

private theorem class?_textError?
    (text : String) :
    (textError? text).map ReferenceError.class? =
      (textFlaws text).head?.map ValueFlaw.class? := by
  unfold textError? textFlaws
  split
  · cases splitPieces (text.length + 1) [] text.toList with
    | none => rfl
    | some pieces =>
        simp only [List.head?_filterMap, List.map_findSome?]
        congr 1
        funext piece
        cases piece with
        | verbatim chars => rfl
        | reference body =>
            simp only [Function.comp_apply, pieceFlaw?]
            rcases referencePath body with (_ | _ | _ | _ | _ | _ | _) | _ <;> rfl
  · rfl

private theorem itemsError?_cons
    (position : Nat) (item : Value) (rest : List Value) :
    itemsError? position (item :: rest) =
      ((contentError? item).map (ContentError.behind (.item position))).or
        (itemsError? (position + 1) rest) := by
  rw [itemsError?]
  cases contentError? item <;> rfl

private theorem entriesError?_cons
    {key : Value} (proper : isKey key = true) (value : Value) (rest : Layer) :
    entriesError? ((key, value) :: rest) =
      ((contentError? value).map (ContentError.behind (.key key.display))).or
        (entriesError? rest) := by
  cases key with
  | null | list _ | table _ => cases proper
  | bool _ | int _ | real _ | text _ =>
      simp only [entriesError?]
      cases contentError? value <;> rfl

theorem map_class?_behind
    (step : Step) (error? : Option ContentError) :
    (error?.map (ContentError.behind step)).map ContentError.class? =
      error?.map ContentError.class? := by
  cases error? with
  | none => rfl
  | some error => simp

mutual

/-- The check of a value stops at its first flaw. -/
theorem class?_contentError?
    (value : Value) :
    (contentError? value).map ContentError.class? =
      (flaws value).head?.map ValueFlaw.class? := by
  cases value with
  | text text =>
      rw [contentError?, flaws, ← class?_textError?, Option.map_map]
      rfl
  | list items => rw [contentError?, flaws, class?_itemsError?]
  | table entries => rw [contentError?, flaws, class?_entriesError?]
  | null | bool _ | int _ | real _ => simp [contentError?, flaws]

theorem class?_itemsError?
    (position : Nat) (items : List Value) :
    (itemsError? position items).map ContentError.class? =
      (itemFlaws items).head?.map ValueFlaw.class? := by
  cases items with
  | nil => simp [itemsError?, itemFlaws]
  | cons item rest =>
      rw [itemsError?_cons, itemFlaws, List.head?_append, Option.map_or,
        Option.map_or, map_class?_behind, class?_contentError? item,
        class?_itemsError? (position + 1) rest]

theorem class?_entriesError?
    (entries : List (Value × Value)) :
    (entriesError? entries).map ContentError.class? =
      (entryFlaws entries).head?.map ValueFlaw.class? := by
  cases entries with
  | nil => simp [entriesError?, entryFlaws]
  | cons entry rest =>
      obtain ⟨key, value⟩ := entry
      by_cases proper : isKey key = true
      · rw [entriesError?_cons proper, entryFlaws, if_pos proper,
          List.nil_append, List.head?_append, Option.map_or, Option.map_or,
          map_class?_behind, class?_contentError? value,
          class?_entriesError? rest]
      · cases key with
        | null | list _ | table _ => rfl
        | bool _ | int _ | real _ | text _ => cases proper rfl

end

theorem contentError?_eq_none_iff
    {value : Value} :
    contentError? value = none ↔ flaws value = [] := by
  have sameClass := class?_contentError? value
  rw [← List.head?_eq_none_iff, ← Option.map_eq_none_iff, sameClass,
    Option.map_eq_none_iff]

@[simp]
theorem itemFlaws_eq_nil_iff
    {items : List Value} :
    itemFlaws items = [] ↔ ∀ item ∈ items, flaws item = [] := by
  induction items with
  | nil => simp [itemFlaws]
  | cons item rest inductionHypothesis =>
      simp [itemFlaws, inductionHypothesis]

@[simp]
theorem entryFlaws_eq_nil_iff
    {entries : Layer} :
    entryFlaws entries = [] ↔
      ∀ entry ∈ entries, isKey entry.1 = true ∧ flaws entry.2 = [] := by
  induction entries with
  | nil => simp [entryFlaws]
  | cons entry rest inductionHypothesis =>
      obtain ⟨key, value⟩ := entry
      simp [entryFlaws, inductionHypothesis, and_assoc]

/-! ## Values that clash -/

/-- Somewhere a table of one value meets a list of the other.  The keys of a later
table are compared one after the other, each with what those in front of it have
left. -/
inductive Clash : Value → Value → Prop
  | tableList (entries : Layer) (items : List Value) :
      Clash (.table entries) (.list items)
  | listTable (items : List Value) (entries : Layer) :
      Clash (.list items) (.table entries)
  | inside {base between before after : Layer} {key earlier value : Value}
      (merged : mergeEntries base before = .ok between)
      (common : Value.find? between key = some earlier)
      (clash : Clash earlier value) :
      Clash (.table base) (.table (before ++ (key, value) :: after))

private theorem mergeEntries_append
    (base first second : Layer) :
    mergeEntries base (first ++ second) =
      mergeEntries base first >>= fun between => mergeEntries between second := by
  induction first generalizing base with
  | nil => rw [List.nil_append, mergeEntries]; rfl
  | cons entry rest inductionHypothesis =>
      obtain ⟨key, value⟩ := entry
      rw [List.cons_append, mergeEntries, mergeEntries]
      cases Value.find? base key with
      | none => exact inductionHypothesis _
      | some earlier =>
          cases merged : mergeValue earlier value with
          | error error =>
              simp only [merged]
              rfl
          | ok both =>
              simp only [merged]
              exact inductionHypothesis _

private theorem Clash.mergeValue_eq
    {earlier later : Value} (clash : Clash earlier later) :
    mergeValue earlier later = .error .containers := by
  induction clash with
  | tableList entries items => simp only [mergeValue]
  | listTable items entries => simp only [mergeValue]
  | inside merged common _ inductionHypothesis =>
      rw [mergeValue, mergeEntries_append, merged]
      simp only [bind, Except.bind]
      rw [mergeEntries, common]
      simp only [inductionHypothesis]
      rfl

mutual

theorem clash_of_mergeValue
    {earlier later : Value} {error : MergeError}
    (fails : mergeValue earlier later = .error error) :
    error = .containers ∧ Clash earlier later := by
  cases later with
  | table entries =>
      cases earlier with
      | table base =>
          rw [mergeValue] at fails
          cases merged : mergeEntries base entries with
          | error reason =>
              rw [merged] at fails
              cases fails
              obtain ⟨before, after, key, earlier, value, between, rfl, isMerged,
                common, isContainers, clash⟩ := clash_of_mergeEntries merged
              exact ⟨isContainers, .inside isMerged common clash⟩
          | ok layer =>
              rw [merged] at fails
              cases fails
      | list items =>
          simp only [mergeValue] at fails
          cases fails
          exact ⟨rfl, .listTable items entries⟩
      | null | bool _ | int _ | real _ | text _ =>
          simp only [mergeValue] at fails
          cases fails
  | list items =>
      cases earlier with
      | table base =>
          simp only [mergeValue] at fails
          cases fails
          exact ⟨rfl, .tableList base items⟩
      | null | bool _ | int _ | real _ | text _ | list _ =>
          simp only [mergeValue] at fails
          cases fails
  | null | bool _ | int _ | real _ | text _ =>
      simp only [mergeValue] at fails
      cases fails

/-- The first entry that cannot be merged clashes with the value that the
entries before it have left under its key. -/
theorem clash_of_mergeEntries
    {base entries : Layer} {error : MergeError}
    (fails : mergeEntries base entries = .error error) :
    ∃ before after key earlier value between,
      entries = before ++ (key, value) :: after ∧
      mergeEntries base before = .ok between ∧
      Value.find? between key = some earlier ∧
      error = .containers ∧ Clash earlier value := by
  cases entries with
  | nil =>
      rw [mergeEntries] at fails
      cases fails
  | cons entry rest =>
      obtain ⟨key, value⟩ := entry
      rw [mergeEntries] at fails
      cases found : Value.find? base key with
      | none =>
          simp only [found] at fails
          obtain ⟨before, after, other, earlier, later, between, rfl, merged,
            others⟩ := clash_of_mergeEntries fails
          refine ⟨(key, value) :: before, after, other, earlier, later, between,
            rfl, ?_, others⟩
          rw [mergeEntries, found]
          exact merged
      | some earlier =>
          simp only [found] at fails
          cases merged : mergeValue earlier value with
          | error reason =>
              simp only [merged] at fails
              cases fails
              exact ⟨[], rest, key, earlier, value, base, rfl, by rw [mergeEntries],
                found, clash_of_mergeValue merged⟩
          | ok both =>
              simp only [merged] at fails
              obtain ⟨before, after, other, earlierOther, later, between, rfl,
                isMerged, others⟩ := clash_of_mergeEntries fails
              refine ⟨(key, value) :: before, after, other, earlierOther, later,
                between, rfl, ?_, others⟩
              rw [mergeEntries, found]
              simp only [merged]
              exact isMerged

end

theorem mergeValue_eq_error_iff
    {earlier later : Value} {error : MergeError} :
    mergeValue earlier later = .error error ↔
      error = .containers ∧ Clash earlier later := by
  constructor
  · exact clash_of_mergeValue
  · rintro ⟨rfl, clash⟩
    exact clash.mergeValue_eq

/-- Assigning fails exactly if the value clashes with the one in its place. -/
theorem assign_eq_error_iff
    {current : Option Value} {value : Value} {error : MergeError} :
    assign current value = .error error ↔
      error = .containers ∧ ∃ target, current = some target ∧ Clash target value := by
  cases current with
  | none => simp [assign]
  | some target =>
      have asMerged :
          assign (some target) value = .error error ↔
            mergeValue target value = .error error := by
        cases target <;> cases value <;> simp [assign, mergeValue]
      rw [asMerged, mergeValue_eq_error_iff]
      simp

/-! ## The way of a key path -/

/-- A part of a key path leads from a container to what it finds there.  A
position that is counted from the end of a list is found by the last part only;
any other part renews the item. -/
inductive Steps : Value → String → Bool → Option Value → Prop
  | key (entries : Layer) (part : String) (isLast : Bool) :
      Steps (.table entries) part isLast (Value.find? entries (.text part))
  | item {items : List Value} {part : String} {position : Nat}
      (isNumber : Decimal.readInteger? part.toList = some (position : Int))
      (inside : position < items.length) (isLast : Bool) :
      Steps (.list items) part isLast items[position]?
  | fromEnd {items : List Value} {part : String} {number : Int}
      (isNumber : Decimal.readInteger? part.toList = some number)
      (negative : number < 0) (inside : 0 ≤ number + items.length) :
      Steps (.list items) part true items[(number + items.length).toNat]?
  | renewed {items : List Value} {part : String} {number : Int}
      (isNumber : Decimal.readInteger? part.toList = some number)
      (negative : number < 0) (inside : 0 ≤ number + items.length) :
      Steps (.list items) part false none

def isContainer : Option Value → Bool
  | some (.list _) | some (.table _) => true
  | _ => false

/-- A key path leads to a place, at which there may be something already. -/
inductive Leads : Option Value → List String → Option Value → Prop
  | last {container : Value} {part : String} {target : Option Value}
      (step : Steps container part true target) :
      Leads (some container) [part] target
  | behind {container : Value} {part next : String} {rest : List String}
      {inner target : Option Value}
      (step : Steps container part false inner)
      (present : inner.any isMissing = false)
      (leads : Leads inner (next :: rest) target) :
      Leads (some container) (part :: next :: rest) target
  | fresh {current : Option Value} (noContainer : isContainer current = false)
      (part : String) (rest : List String) :
      Leads current (part :: rest) none

/-- The way of a key path is barred: it leads through a missing value, or into a
list with a part that is no number or a number that is too large. -/
inductive Barred : ErrorClass → Option Value → List String → Prop
  | missing {container : Value} {part : String} {inner : Option Value}
      (step : Steps container part false inner)
      (missing : inner.any isMissing = true)
      (next : String) (rest : List String) :
      Barred .missing (some container) (part :: next :: rest)
  | range {items : List Value} {part : String} {number : Int}
      (isNumber : Decimal.readInteger? part.toList = some number)
      (outside : number + items.length < 0 ∨ items.length ≤ number)
      (rest : List String) :
      Barred .index (some (.list items)) (part :: rest)
  | noNumber {part : String}
      (noNumber : Decimal.readInteger? part.toList = none)
      (items : List Value) (next : String) (rest : List String) :
      Barred .kind (some (.list items)) (part :: next :: rest)
  | noLastNumber {part : String}
      (noNumber : Decimal.readInteger? part.toList = none) (items : List Value) :
      Barred .value (some (.list items)) [part]
  | behind {container : Value} {part next : String} {rest : List String}
      {inner : Option Value} {errorClass : ErrorClass}
      (step : Steps container part false inner)
      (present : inner.any isMissing = false)
      (barred : Barred errorClass inner (next :: rest)) :
      Barred errorClass (some container) (part :: next :: rest)

private theorem Steps.exists_listStep
    {items : List Value} {part : String} {isLast : Bool} {inner : Option Value}
    (step : Steps (.list items) part isLast inner) :
    ∃ position, listStep items part isLast = .ok (position, inner) := by
  cases step with
  | @item _ _ position isNumber inside =>
      have notNegative : ¬ (position : Int) < 0 := by omega
      have within : 0 ≤ (position : Int) ∧ (position : Int) < items.length := by
        omega
      refine ⟨position, ?_⟩
      simp [listStep, isNumber, notNegative, within]
  | @fromEnd _ _ number isNumber negative inside =>
      have within :
          0 ≤ number + items.length ∧ number + items.length < items.length := by
        omega
      refine ⟨(number + items.length).toNat, ?_⟩
      simp only [listStep, isNumber, if_pos negative, if_pos within,
        Bool.not_true, Bool.and_false, Bool.false_eq_true, if_false]
  | @renewed _ _ number isNumber negative inside =>
      have within :
          0 ≤ number + items.length ∧ number + items.length < items.length := by
        omega
      refine ⟨(number + items.length).toNat, ?_⟩
      simp [listStep, isNumber, negative, within]

private theorem exists_steps_of_inside
    {items : List Value} {part : String} {number : Int}
    (isNumber : Decimal.readInteger? part.toList = some number)
    (inside : 0 ≤ number + items.length ∧ number < items.length)
    (isLast : Bool) :
    ∃ inner, Steps (.list items) part isLast inner := by
  by_cases negative : number < 0
  · cases isLast with
    | true => exact ⟨_, .fromEnd isNumber negative inside.1⟩
    | false => exact ⟨_, .renewed isNumber negative inside.1⟩
  · obtain ⟨position, rfl⟩ := Int.eq_ofNat_of_zero_le (Int.not_lt.mp negative)
    exact ⟨_, .item isNumber (by omega) isLast⟩

/-- A step of a key path is a step of storing. -/
theorem Steps.exists_storeAt
    {container : Value} {part : String} {isLast : Bool} {inner : Option Value}
    (step : Steps container part isLast inner) (rest : List String)
    (atEnd : rest.isEmpty = isLast) :
    ∃ rebuild : Value → Value, ∀ value,
      storeAt (some container) (part :: rest) value =
        if !isLast && inner.any isMissing then .error .missing
        else (storeAt inner rest value).map rebuild := by
  cases container with
  | table entries =>
      cases step
      refine ⟨fun stored => .table (Value.store entries (.text part) stored), ?_⟩
      intro value
      rw [storeAt, atEnd]
      cases storeAt (Value.find? entries (.text part)) rest value <;> rfl
  | list items =>
      obtain ⟨position, isStep⟩ := step.exists_listStep
      refine ⟨fun stored => .list (items.set position stored), ?_⟩
      intro value
      rw [storeAt, atEnd, isStep]
      simp only [bind, Except.bind]
      cases storeAt inner rest value <;> rfl
  | null | bool _ | int _ | real _ | text _ => cases step

/-- The tables that a key path makes where there is nothing yet. -/
def nested : List String → Value → Value
  | [], value => value
  | part :: rest, value => .table [(.text part, nested rest value)]

theorem storeAt_of_no_container
    {current : Option Value} (noContainer : isContainer current = false)
    (part : String) (rest : List String) (value : Value) :
    storeAt current (part :: rest) value =
      (storeAt none rest value).map fun stored => .table [(.text part, stored)] := by
  rcases current with _ | _ | _ | _ | _ | _ | items | entries
  case some.list => cases noContainer
  case some.table => cases noContainer
  all_goals
    simp only [storeAt]
    cases storeAt none rest value <;> rfl

theorem storeAt_none
    (path : List String) (value : Value) :
    storeAt none path value = .ok (nested path value) := by
  induction path with
  | nil => rfl
  | cons part rest inductionHypothesis =>
      rw [storeAt_of_no_container rfl, inductionHypothesis]
      rfl

/-- Where a key path leads, a value is assigned to what is there. -/
theorem Leads.exists_storeAt
    {current target : Option Value} {path : List String}
    (leads : Leads current path target) :
    ∃ rebuild : Value → Value, ∀ value,
      storeAt current path value = (assign target value).map rebuild := by
  induction leads with
  | last step => exact step.exists_storeAt [] rfl
  | @behind container part next rest inner target step present _
      inductionHypothesis =>
      obtain ⟨outer, stores⟩ := step.exists_storeAt (next :: rest) rfl
      obtain ⟨rebuild, storesInner⟩ := inductionHypothesis
      refine ⟨outer ∘ rebuild, fun value => ?_⟩
      rw [stores, present, storesInner]
      cases assign target value <;> rfl
  | fresh noContainer part rest =>
      refine ⟨nested (part :: rest), fun value => ?_⟩
      rw [storeAt_of_no_container noContainer, storeAt_none]
      rfl

private theorem storeAt_of_outside
    {items : List Value} {part : String} {number : Int}
    (isNumber : Decimal.readInteger? part.toList = some number)
    (outside : number + items.length < 0 ∨ items.length ≤ number)
    (rest : List String) (value : Value) :
    storeAt (some (.list items)) (part :: rest) value = .error .listRange := by
  have notInside :
      ¬ (0 ≤ (if number < 0 then number + items.length else number) ∧
        (if number < 0 then number + items.length else number) <
          items.length) := by
    split <;> omega
  simp only [storeAt, listStep, isNumber, if_neg notInside]
  rfl

theorem storeAt_of_no_number
    {part : String} (noNumber : Decimal.readInteger? part.toList = none)
    (items : List Value) (rest : List String) (value : Value) :
    storeAt (some (.list items)) (part :: rest) value =
      .error (if rest.isEmpty then .listKey part else .listStep part) := by
  simp only [storeAt, listStep, noNumber]
  rfl

/-- Where the way is barred, nothing is stored. -/
theorem Barred.exists_storeAt
    {errorClass : ErrorClass} {current : Option Value} {path : List String}
    (barred : Barred errorClass current path) :
    ∃ error, error ≠ MergeError.containers ∧ error.class = errorClass ∧
      ∀ value, storeAt current path value = .error error := by
  induction barred with
  | missing step missing next rest =>
      obtain ⟨rebuild, stores⟩ := step.exists_storeAt (next :: rest) rfl
      refine ⟨.missing, by simp, rfl, fun value => ?_⟩
      rw [stores, missing]
      rfl
  | range isNumber outside rest =>
      exact ⟨.listRange, by simp, rfl, storeAt_of_outside isNumber outside rest⟩
  | @noNumber part noNumber items next rest =>
      exact ⟨.listStep part, by simp, rfl,
        storeAt_of_no_number noNumber items (next :: rest)⟩
  | @noLastNumber part noNumber items =>
      exact ⟨.listKey part, by simp, rfl, storeAt_of_no_number noNumber items []⟩
  | @behind container part next rest inner errorClass step present _
      inductionHypothesis =>
      obtain ⟨rebuild, stores⟩ := step.exists_storeAt (next :: rest) rfl
      obtain ⟨error, notContainers, isClass, fails⟩ := inductionHypothesis
      refine ⟨error, notContainers, isClass, fun value => ?_⟩
      rw [stores, present, fails]
      rfl

/-- From any place a part of a key path starts afresh, finds its way or is
barred. -/
theorem steps_or_barred
    (current : Option Value) (part : String) (rest : List String) :
    isContainer current = false ∨
      (∃ container inner, current = some container ∧
        Steps container part rest.isEmpty inner) ∨
      ∃ errorClass, Barred errorClass current (part :: rest) := by
  rcases current with _ | _ | _ | _ | _ | _ | items | entries
  case some.list =>
    right
    cases isNumber : Decimal.readInteger? part.toList with
    | none =>
        cases rest with
        | nil => exact .inr ⟨_, .noLastNumber isNumber items⟩
        | cons next rest => exact .inr ⟨_, .noNumber isNumber items next rest⟩
    | some number =>
        by_cases inside : 0 ≤ number + items.length ∧ number < items.length
        · obtain ⟨inner, step⟩ :=
            exists_steps_of_inside isNumber inside rest.isEmpty
          exact .inl ⟨_, inner, rfl, step⟩
        · exact .inr ⟨_, .range isNumber (by omega) rest⟩
  case some.table =>
    exact .inr (.inl ⟨_, _, rfl, .key entries part rest.isEmpty⟩)
  all_goals exact .inl rfl

/-- A key path that is not barred leads somewhere. -/
theorem leads_or_barred
    (current : Option Value) (part : String) (rest : List String) :
    (∃ target, Leads current (part :: rest) target) ∨
      ∃ errorClass, Barred errorClass current (part :: rest) := by
  induction rest generalizing current part with
  | nil =>
      rcases steps_or_barred current part [] with
        noContainer | ⟨container, inner, rfl, step⟩ | barred
      · exact .inl ⟨none, .fresh noContainer part []⟩
      · exact .inl ⟨inner, .last step⟩
      · exact .inr barred
  | cons next rest inductionHypothesis =>
      rcases steps_or_barred current part (next :: rest) with
        noContainer | ⟨container, inner, rfl, step⟩ | barred
      · exact .inl ⟨none, .fresh noContainer part _⟩
      · cases present : inner.any isMissing with
        | true => exact .inr ⟨_, .missing step present next rest⟩
        | false =>
            rcases inductionHypothesis inner next with
              ⟨target, leads⟩ | ⟨errorClass, barred⟩
            · exact .inl ⟨target, .behind step present leads⟩
            · exact .inr ⟨errorClass, .behind step present barred⟩
      · exact .inr barred

end Chip8.Config
