import Chip8.Proofs.LayerConflicts
import Chip8.Proofs.Tables

/-!
# Layers without flaws

Values without flaws stay so when they are stored in each other and merged, and
following their references meets no error but those that are reported.  The keys
of merged layers are the keys of the layers.
-/

namespace Chip8

theorem bind_eq_error_iff
    {ε α β : Type} {computation : Except ε α}
    {continuation : α → Except ε β} {error : ε} :
    computation >>= continuation = .error error ↔
      computation = .error error ∨
        ∃ value, computation = .ok value ∧ continuation value = .error error := by
  cases computation with
  | error reason => simp [bind, Except.bind]
  | ok value => simp [bind, Except.bind]

private theorem exists_mem_of_mapM
    {α β ε : Type} {action : α → Except ε β} {items : List α} {error : ε}
    (fails : items.mapM action = .error error) :
    ∃ item ∈ items, action item = .error error := by
  induction items with
  | nil => cases fails
  | cons item rest inductionHypothesis =>
      rw [List.mapM_cons] at fails
      rcases bind_eq_error_iff.mp fails with first | ⟨value, -, others⟩
      · exact ⟨item, List.mem_cons_self, first⟩
      rcases bind_eq_error_iff.mp others with others | ⟨values, -, isOk⟩
      · obtain ⟨failing, belongs, isError⟩ := inductionHypothesis others
        exact ⟨failing, List.mem_cons_of_mem item belongs, isError⟩
      · cases isOk

@[simp]
theorem map_eq_error_iff
    {ε α β : Type} {computation : Except ε α} {change : α → β} {error : ε} :
    computation.map change = .error error ↔ computation = .error error := by
  cases computation with
  | error reason => simp [Except.map]
  | ok value => simp [Except.map]

theorem mapError_eq_error_iff
    {ε δ α : Type} {computation : Except ε α} {report : ε → δ} {error : δ} :
    computation.mapError report = .error error ↔
      ∃ reason, computation = .error reason ∧ report reason = error := by
  cases computation with
  | error reason => simp
  | ok value => simp

namespace Config

/-! ## Storing and merging -/

@[simp]
theorem flaws_list_eq_nil_iff
    {items : List Value} :
    flaws (.list items) = [] ↔ ∀ item ∈ items, flaws item = [] := by
  rw [flaws, itemFlaws_eq_nil_iff]

@[simp]
theorem flaws_table_eq_nil_iff
    {entries : Layer} :
    flaws (.table entries) = [] ↔
      ∀ entry ∈ entries, isKey entry.1 = true ∧ flaws entry.2 = [] := by
  rw [flaws, entryFlaws_eq_nil_iff]

private theorem exists_mem_of_find?
    {entries : Layer} {key value : Value}
    (found : Value.find? entries key = some value) :
    ∃ entry ∈ entries, entry.2 = value := by
  obtain ⟨entry, isFound, rfl⟩ := Option.map_eq_some_iff.mp found
  exact ⟨entry, List.mem_of_find?_eq_some isFound, rfl⟩

theorem flaws_of_find?
    {entries : Layer} {key value : Value}
    (sound : flaws (.table entries) = [])
    (found : Value.find? entries key = some value) :
    flaws value = [] := by
  obtain ⟨entry, belongs, rfl⟩ := exists_mem_of_find? found
  exact (flaws_table_eq_nil_iff.mp sound entry belongs).2

/-- A flawless value can be stored under a proper key. -/
theorem flaws_store
    {base : Layer} {key value : Value}
    (sound : flaws (.table base) = []) (proper : isKey key = true)
    (soundValue : flaws value = []) :
    flaws (.table (Value.store base key value)) = [] := by
  rw [flaws_table_eq_nil_iff] at sound ⊢
  have values :=
    @Value.forall_values_store (fun value => flaws value = []) base value
      (fun entry belongs => (sound entry belongs).2) soundValue key
  intro entry belongs
  refine ⟨?_, values entry belongs⟩
  by_cases present : (base.any fun entry => entry.1.sameKey key) = true
  · have isKey : entry.1 ∈ base.map Prod.fst := by
      rw [← Value.keys_store_of_any value present]
      exact List.mem_map_of_mem belongs
    obtain ⟨earlier, inBase, same⟩ := List.mem_map.mp isKey
    rw [← same]
    exact (sound earlier inBase).1
  · rw [Value.store_of_not_any value present] at belongs
    rcases List.mem_append.mp belongs with inBase | isNew
    · exact (sound entry inBase).1
    · rw [List.mem_singleton.mp isNew]
      exact proper

mutual

theorem flaws_mergeValue
    {earlier later merged : Value}
    (soundEarlier : flaws earlier = []) (soundLater : flaws later = [])
    (isMerged : mergeValue earlier later = .ok merged) :
    flaws merged = [] := by
  cases later with
  | table entries =>
      cases earlier with
      | table base =>
          rw [mergeValue] at isMerged
          cases both : mergeEntries base entries with
          | error error =>
              rw [both] at isMerged
              cases isMerged
          | ok layer =>
              rw [both] at isMerged
              cases isMerged
              exact flaws_mergeEntries soundEarlier soundLater both
      | list items =>
          simp only [mergeValue] at isMerged
          cases isMerged
      | null | bool _ | int _ | real _ | text _ =>
          simp only [mergeValue] at isMerged
          cases isMerged
          exact soundLater
  | list items =>
      cases earlier with
      | table base =>
          simp only [mergeValue] at isMerged
          cases isMerged
      | null | bool _ | int _ | real _ | text _ | list _ =>
          simp only [mergeValue] at isMerged
          cases isMerged
          exact soundLater
  | null | bool _ | int _ | real _ | text _ =>
      simp only [mergeValue] at isMerged
      cases isMerged
      split
      · exact soundEarlier
      · exact soundLater

theorem flaws_mergeEntries
    {base entries merged : Layer}
    (soundBase : flaws (.table base) = [])
    (soundEntries : flaws (.table entries) = [])
    (isMerged : mergeEntries base entries = .ok merged) :
    flaws (.table merged) = [] := by
  cases entries with
  | nil =>
      rw [mergeEntries] at isMerged
      cases isMerged
      exact soundBase
  | cons entry rest =>
      obtain ⟨key, value⟩ := entry
      obtain ⟨⟨proper, soundValue⟩, others⟩ :=
        List.forall_mem_cons.mp (flaws_table_eq_nil_iff.mp soundEntries)
      have soundRest := flaws_table_eq_nil_iff.mpr others
      rw [mergeEntries] at isMerged
      cases found : Value.find? base key with
      | none =>
          simp only [found] at isMerged
          exact flaws_mergeEntries (flaws_store soundBase proper soundValue)
            soundRest isMerged
      | some earlier =>
          simp only [found] at isMerged
          cases both : mergeValue earlier value with
          | error error =>
              simp only [both] at isMerged
              cases isMerged
          | ok merged =>
              simp only [both] at isMerged
              have soundBoth :=
                flaws_mergeValue (flaws_of_find? soundBase found) soundValue both
              exact flaws_mergeEntries (flaws_store soundBase proper soundBoth)
                soundRest isMerged

end

private theorem flaws_assign
    {current : Option Value} {value stored : Value}
    (soundCurrent : ∀ present, current = some present → flaws present = [])
    (soundValue : flaws value = [])
    (isStored : assign current value = .ok stored) :
    flaws stored = [] := by
  unfold assign at isStored
  split at isStored
  next base entries =>
    cases both : mergeEntries base entries with
    | error error =>
        rw [both] at isStored
        cases isStored
    | ok merged =>
        rw [both] at isStored
        cases isStored
        exact flaws_mergeEntries (soundCurrent _ rfl) soundValue both
  next => cases isStored
  next => cases isStored
  next =>
    cases isStored
    exact soundValue

/-- What a step into a flawless list finds is flawless. -/
theorem flaws_of_listStep
    {items : List Value} {part : String} {isLast : Bool} {position : Nat}
    {inner : Option Value}
    (sound : flaws (.list items) = [])
    (isStep : listStep items part isLast = .ok (position, inner)) :
    ∀ present, inner = some present → flaws present = [] := by
  rintro present rfl
  cases isNumber : Decimal.readInteger? part.toList with
  | none =>
      simp only [listStep, isNumber] at isStep
      cases isStep
  | some number =>
      simp only [listStep, isNumber] at isStep
      generalize (if number < 0 then number + (items.length : Int) else number) =
        place at isStep
      by_cases inside : 0 ≤ place ∧ place < items.length
      · rw [if_pos inside, Except.ok.injEq, Prod.mk.injEq] at isStep
        obtain ⟨-, isInner⟩ := isStep
        split at isInner
        · cases isInner
        · exact flaws_list_eq_nil_iff.mp sound _ (List.mem_of_getElem? isInner)
      · rw [if_neg inside] at isStep
        cases isStep

private theorem flaws_nested
    {value : Value} (sound : flaws value = []) (path : List String) :
    flaws (nested path value) = [] := by
  induction path with
  | nil => exact sound
  | cons part rest inductionHypothesis =>
      rw [nested, flaws_table_eq_nil_iff, List.forall_mem_singleton]
      exact ⟨rfl, inductionHypothesis⟩

/-- What is stored in a value without flaws leaves it without flaws. -/
theorem flaws_storeAt
    {current : Option Value} {path : List String} {value stored : Value}
    (soundCurrent : ∀ present, current = some present → flaws present = [])
    (soundValue : flaws value = [])
    (isStored : storeAt current path value = .ok stored) :
    flaws stored = [] := by
  induction path generalizing current stored with
  | nil => exact flaws_assign soundCurrent soundValue isStored
  | cons part rest inductionHypothesis =>
      rcases current with _ | _ | _ | _ | _ | _ | items | entries
      case some.list =>
        have sound := soundCurrent _ rfl
        rw [storeAt] at isStored
        obtain ⟨⟨position, inner⟩, isStep, later⟩ := bind_eq_ok_iff.mp isStored
        simp only at later
        split at later
        · cases later
        obtain ⟨innerStored, isInner, isList⟩ := bind_eq_ok_iff.mp later
        cases isList
        have soundInner :=
          inductionHypothesis (flaws_of_listStep sound isStep) isInner
        rw [flaws_list_eq_nil_iff] at sound ⊢
        intro item belongs
        rcases List.mem_or_eq_of_mem_set belongs with earlier | rfl
        · exact sound item earlier
        · exact soundInner
      case some.table =>
        have sound := soundCurrent _ rfl
        rw [storeAt] at isStored
        split at isStored
        · cases isStored
        obtain ⟨innerStored, isInner, isTable⟩ := bind_eq_ok_iff.mp isStored
        cases isTable
        exact flaws_store sound rfl
          (inductionHypothesis (fun _ found => flaws_of_find? sound found) isInner)
      all_goals
        rw [storeAt_of_no_container rfl, storeAt_none] at isStored
        cases isStored
        exact flaws_nested soundValue (part :: rest)

/-! ## References without flaws -/

private theorem exists_reference_of_joinPieces
    {resolveBody : List Char → Except Unresolved Value} {pieces : List Piece}
    {error : Unresolved}
    (fails : joinPieces resolveBody pieces = .error error) :
    ∃ body, .reference body ∈ pieces ∧
      (resolveBody body = .error error ∨ error = { reason := .unwritable }) := by
  unfold joinPieces at fails
  split at fails
  next body => exact ⟨body, List.mem_singleton_self _, .inl fails⟩
  next =>
    rcases bind_eq_error_iff.mp fails with inPieces | ⟨texts, -, isOk⟩
    · obtain ⟨piece, belongs, isError⟩ := exists_mem_of_mapM inPieces
      cases piece with
      | verbatim chars => cases isError
      | reference body =>
          refine ⟨body, belongs, ?_⟩
          rcases bind_eq_error_iff.mp isError with inBody | ⟨value, -, unwritable⟩
          · exact .inl inBody
          · split at unwritable
            · cases unwritable
            · cases unwritable
              exact .inr rfl
    · cases isOk

/-- In a text without flaws a reference is neither malformed nor of a form that is
not read. -/
theorem class?_of_referencePath
    {text : String} {pieces : List Piece} {body : List Char}
    {reason : ReferenceError}
    (sound : textFlaws text = []) (refers : hasReference text.toList = true)
    (isSplit : splitPieces (text.length + 1) [] text.toList = some pieces)
    (belongs : .reference body ∈ pieces)
    (fails : referencePath body = .error reason) :
    reason.class? = some .value := by
  simp only [textFlaws, refers, if_true, isSplit, List.filterMap_eq_nil_iff]
    at sound
  have noFlaw := sound _ belongs
  simp only [pieceFlaw?, fails] at noFlaw
  cases reason <;> first | rfl | cases noFlaw

private theorem flaws_of_follow
    {value target : Value} {path : List String}
    (sound : flaws value = []) (leads : follow value path = some target) :
    flaws target = [] := by
  induction path generalizing value with
  | nil =>
      rw [follow] at leads
      cases leads
      exact sound
  | cons part rest inductionHypothesis =>
      cases value with
      | table entries =>
          simp only [follow] at leads
          split at leads
          next inner found =>
            exact inductionHypothesis (flaws_of_find? sound found) leads
          next => cases leads
      | list items =>
          simp only [follow] at leads
          split at leads
          next position inner isStep =>
            exact inductionHypothesis (flaws_of_listStep sound isStep _ rfl) leads
          next => cases leads
      | null | bool _ | int _ | real _ | text _ =>
          simp only [follow] at leads
          cases leads

section

variable {root : Layer} {fuel : Nat}

/-- The errors of following references in a value without flaws are reported. -/
def ReportsReferences (root : Layer) (fuel : Nat) : Prop :=
  ∀ value error, flaws value = [] → resolve root fuel value = .error error →
    error.reason.class? = some .value

private theorem class?_of_resolve_text
    (soundRoot : flaws (.table root) = [])
    (deeper : ∀ less, fuel = less + 1 → ReportsReferences root less)
    {text : String} (sound : textFlaws text = []) {error : Unresolved}
    (fails : resolve root fuel (.text text) = .error error) :
    error.reason.class? = some .value := by
  rw [resolve.eq_def] at fails
  by_cases refers : hasReference text.toList = true
  · simp only [refers, if_true] at fails
    cases fuel with
    | zero =>
        cases fails
        rfl
    | succ less =>
        cases isSplit : splitPieces (text.length + 1) [] text.toList with
        | none => simp [textFlaws, refers, isSplit] at sound
        | some pieces =>
            simp only [isSplit] at fails
            obtain ⟨body, belongs, inBody | rfl⟩ :=
              exists_reference_of_joinPieces fails
            · rcases bind_eq_error_iff.mp inBody with unread | ⟨path, -, onWay⟩
              · obtain ⟨reason, isReason, rfl⟩ := mapError_eq_error_iff.mp unread
                exact class?_of_referencePath sound refers isSplit belongs isReason
              · cases leads : follow (.table root) path with
                | none =>
                    simp only [leads] at onWay
                    cases onWay
                    rfl
                | some target =>
                    simp only [leads] at onWay
                    split at onWay
                    · cases onWay
                      rfl
                    · exact deeper less rfl target error
                        (flaws_of_follow soundRoot leads) onWay
            · rfl
  · simp only [if_neg refers] at fails
    cases fails

mutual

/-- The step of the induction on the fuel: references that lead deeper are taken
care of by the hypothesis. -/
theorem class?_of_resolve_of_deeper
    (soundRoot : flaws (.table root) = [])
    (deeper : ∀ less, fuel = less + 1 → ReportsReferences root less)
    (value : Value) {error : Unresolved} (sound : flaws value = [])
    (fails : resolve root fuel value = .error error) :
    error.reason.class? = some .value := by
  cases value with
  | text text =>
      rw [flaws] at sound
      exact class?_of_resolve_text soundRoot deeper sound fails
  | list items =>
      rw [resolve] at fails
      exact class?_of_resolveItems soundRoot deeper items
        (flaws_list_eq_nil_iff.mp sound) (map_eq_error_iff.mp fails)
  | table entries =>
      rw [resolve] at fails
      exact class?_of_resolveEntries soundRoot deeper entries sound
        (map_eq_error_iff.mp fails)
  | null | bool _ | int _ | real _ =>
      simp only [resolve] at fails
      cases fails

theorem class?_of_resolveItems
    (soundRoot : flaws (.table root) = [])
    (deeper : ∀ less, fuel = less + 1 → ReportsReferences root less)
    (items : List Value) {position : Nat} {error : Unresolved}
    (sound : ∀ item ∈ items, flaws item = [])
    (fails : resolveItems root fuel position items = .error error) :
    error.reason.class? = some .value := by
  cases items with
  | nil =>
      simp only [resolveItems] at fails
      cases fails
  | cons item rest =>
      obtain ⟨soundItem, soundRest⟩ := List.forall_mem_cons.mp sound
      rw [resolveItems] at fails
      rcases bind_eq_error_iff.mp fails with first | ⟨value, -, others⟩
      · obtain ⟨reason, isReason, rfl⟩ := mapError_eq_error_iff.mp first
        have reported :=
          class?_of_resolve_of_deeper soundRoot deeper item soundItem isReason
        exact reported
      rcases bind_eq_error_iff.mp others with others | ⟨values, -, isOk⟩
      · exact class?_of_resolveItems soundRoot deeper rest soundRest others
      · cases isOk

theorem class?_of_resolveEntries
    (soundRoot : flaws (.table root) = [])
    (deeper : ∀ less, fuel = less + 1 → ReportsReferences root less)
    (entries : Layer) {error : Unresolved}
    (sound : flaws (.table entries) = [])
    (fails : resolveEntries root fuel entries = .error error) :
    error.reason.class? = some .value := by
  cases entries with
  | nil =>
      simp only [resolveEntries] at fails
      cases fails
  | cons entry rest =>
      obtain ⟨key, value⟩ := entry
      obtain ⟨⟨-, soundValue⟩, others⟩ :=
        List.forall_mem_cons.mp (flaws_table_eq_nil_iff.mp sound)
      rw [resolveEntries] at fails
      rcases bind_eq_error_iff.mp fails with first | ⟨resolved, -, later⟩
      · obtain ⟨reason, isReason, rfl⟩ := mapError_eq_error_iff.mp first
        have reported :=
          class?_of_resolve_of_deeper soundRoot deeper value soundValue isReason
        exact reported
      rcases bind_eq_error_iff.mp later with later | ⟨values, -, isOk⟩
      · exact class?_of_resolveEntries soundRoot deeper rest
          (flaws_table_eq_nil_iff.mpr others) later
      · cases isOk

end

/-- However deep references are followed, their errors are reported if there are
no flaws. -/
theorem reportsReferences
    (soundRoot : flaws (.table root) = []) (fuel : Nat) :
    ReportsReferences root fuel := by
  induction fuel with
  | zero =>
      intro value error sound fails
      exact class?_of_resolve_of_deeper soundRoot (by simp) value sound fails
  | succ fuel inductionHypothesis =>
      intro value error sound fails
      refine class?_of_resolve_of_deeper soundRoot ?_ value sound fails
      intro less isLess
      cases isLess
      exact inductionHypothesis

end

/-! ## The keys of merged layers -/

section

variable {Good : Value → Prop}
  (sameGood : ∀ first second : Value,
    first.sameKey second = true → (Good first ↔ Good second))

include sameGood

private theorem exists_key_store_iff
    (base : Layer) (key value : Value) :
    (∃ other ∈ (Value.store base key value).map Prod.fst, Good other) ↔
      (∃ other ∈ base.map Prod.fst, Good other) ∨ Good key := by
  by_cases present : (base.any fun entry => entry.1.sameKey key) = true
  · rw [Value.keys_store_of_any value present]
    refine ⟨.inl, ?_⟩
    rintro (earlier | good)
    · exact earlier
    · obtain ⟨entry, belongs, same⟩ := List.any_eq_true.mp present
      exact ⟨entry.1, List.mem_map_of_mem belongs, (sameGood _ _ same).mpr good⟩
  · rw [Value.keys_store_of_not_any value present]
    simp only [List.mem_append, List.mem_singleton, or_and_right, exists_or,
      exists_eq_left]

/-- The keys of two merged layers are those of both. -/
theorem exists_key_mergeEntries_iff
    {base entries merged : Layer}
    (isMerged : mergeEntries base entries = .ok merged) :
    (∃ key ∈ merged.map Prod.fst, Good key) ↔
      (∃ key ∈ base.map Prod.fst, Good key) ∨
        ∃ key ∈ entries.map Prod.fst, Good key := by
  induction entries generalizing base with
  | nil =>
      rw [mergeEntries] at isMerged
      cases isMerged
      simp
  | cons entry rest inductionHypothesis =>
      obtain ⟨key, value⟩ := entry
      have onward : ∀ stored,
          mergeEntries (Value.store base key stored) rest = .ok merged →
            ((∃ key ∈ merged.map Prod.fst, Good key) ↔
              (∃ key ∈ base.map Prod.fst, Good key) ∨
                ∃ other ∈ key :: rest.map Prod.fst, Good other) := by
        intro stored later
        rw [inductionHypothesis later, exists_key_store_iff sameGood, or_assoc]
        simp only [List.mem_cons, or_and_right, exists_or, exists_eq_left]
      rw [mergeEntries] at isMerged
      cases found : Value.find? base key with
      | none =>
          simp only [found] at isMerged
          exact onward _ isMerged
      | some earlier =>
          simp only [found] at isMerged
          cases both : mergeValue earlier value with
          | error error =>
              simp only [both] at isMerged
              cases isMerged
          | ok stored =>
              simp only [both] at isMerged
              exact onward _ isMerged

end

/-- Following references leaves the keys as they are. -/
theorem keys_resolveEntries
    {root entries resolved : Layer} {fuel : Nat}
    (isResolved : resolveEntries root fuel entries = .ok resolved) :
    resolved.map Prod.fst = entries.map Prod.fst := by
  induction entries generalizing resolved with
  | nil =>
      simp only [resolveEntries] at isResolved
      cases isResolved
      rfl
  | cons entry rest inductionHypothesis =>
      obtain ⟨key, value⟩ := entry
      rw [resolveEntries] at isResolved
      obtain ⟨first, -, later⟩ := bind_eq_ok_iff.mp isResolved
      obtain ⟨others, isOthers, isWhole⟩ := bind_eq_ok_iff.mp later
      cases isWhole
      rw [List.map_cons, List.map_cons, inductionHypothesis isOthers]

end Config

end Chip8
