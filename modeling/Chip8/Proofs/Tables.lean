import Chip8.Proofs.Settings

/-!
# Tables

Settings are kept in tables, and the keys that count are texts.  What was
stored last under a text is what is found there (`find?_storeAll`), and storing
never makes a second key of a text (`distinctTexts_store`).  So in the table of
a document every text is found at its only place.
-/

namespace Chip8

namespace Value

@[simp]
theorem sameKey_text_iff
    {key : Value} {name : String} :
    key.sameKey (.text name) = true ↔ key = .text name := by
  cases key <;> simp [sameKey, number?]

@[simp]
theorem text_sameKey_iff
    {key : Value} {name : String} :
    sameKey (.text name) key = true ↔ key = .text name := by
  cases key with
  | text other =>
      simp only [sameKey, beq_iff_eq, text.injEq]
      exact eq_comm
  | _ => simp [sameKey, number?]

/-- The entry with another value if its key is the given one. -/
def replaced (key value : Value) (entry : Value × Value) : Value × Value :=
  if entry.1.sameKey key then (entry.1, value) else entry

theorem fst_replaced
    (key value : Value) (entry : Value × Value) :
    (replaced key value entry).1 = entry.1 := by
  unfold replaced
  split
  · rfl
  · rfl

theorem store_of_any
    {entries : List (Value × Value)} {key : Value} (value : Value)
    (present : (entries.any fun entry => entry.1.sameKey key) = true) :
    store entries key value = entries.map (replaced key value) := by
  unfold store
  rw [if_pos present]
  rfl

theorem store_of_not_any
    {entries : List (Value × Value)} {key : Value} (value : Value)
    (absent : ¬ (entries.any fun entry => entry.1.sameKey key) = true) :
    store entries key value = entries ++ [(key, value)] := by
  unfold store
  rw [if_neg absent]

@[simp]
theorem find?_append
    (first second : List (Value × Value)) (key : Value) :
    find? (first ++ second) key = (find? first key).or (find? second key) := by
  simp [find?, List.find?_append, Option.map_or]

@[simp]
theorem find?_singleton
    (key value : Value) (name : String) :
    find? [(key, value)] (.text name) =
      if key.sameKey (.text name) then some value else none := by
  by_cases same : key.sameKey (.text name)
  · simp [find?, same]
  · simp [find?, same]

theorem find?_eq_none_iff
    {entries : List (Value × Value)} {name : String} :
    find? entries (.text name) = none ↔
      ∀ entry ∈ entries, entry.1 ≠ .text name := by
  simp [find?]

private theorem find?_map_replaced
    (entries : List (Value × Value)) (key value : Value) (name : String) :
    find? (entries.map (replaced key value)) (.text name) =
      if key.sameKey (.text name) then
        (find? entries (.text name)).map fun _ => value
      else find? entries (.text name) := by
  induction entries with
  | nil => simp [find?]
  | cons entry rest inductionHypothesis =>
      have split := find?_append [entry] rest (.text name)
      have splitReplaced :=
        find?_append [replaced key value entry] (rest.map (replaced key value))
          (.text name)
      simp only [List.singleton_append] at split splitReplaced
      rw [List.map_cons, splitReplaced, split, inductionHypothesis]
      obtain ⟨entryKey, entryValue⟩ := entry
      by_cases found : entryKey.sameKey (.text name)
      · have isName := sameKey_text_iff.mp found
        subst isName
        by_cases same : key.sameKey (.text name)
        · have isKey := sameKey_text_iff.mp same
          subst isKey
          simp [replaced, found]
        · have other : ¬ sameKey (.text name) key = true := by
            rw [text_sameKey_iff, ← sameKey_text_iff]
            exact same
          simp [replaced, found, same, other]
      · have kept :
            find? [replaced key value (entryKey, entryValue)] (.text name) =
              none := by
          simpa [find?, fst_replaced] using found
        have missed : find? [(entryKey, entryValue)] (.text name) = none := by
          simp [found]
        simp [kept, missed]

/-- A stored value is found under its key, and all others are where they were.
-/
theorem find?_store
    (entries : List (Value × Value)) (key value : Value) (name : String) :
    find? (store entries key value) (.text name) =
      if key.sameKey (.text name) then some value
      else find? entries (.text name) := by
  by_cases present : (entries.any fun entry => entry.1.sameKey key) = true
  · rw [store_of_any value present, find?_map_replaced]
    by_cases same : key.sameKey (.text name)
    · have isKey := sameKey_text_iff.mp same
      subst isKey
      have found : find? entries (.text name) ≠ none := by
        intro missing
        obtain ⟨entry, belongs, isEntry⟩ := List.any_eq_true.mp present
        exact find?_eq_none_iff.mp missing entry belongs
          (sameKey_text_iff.mp isEntry)
      obtain ⟨earlier, isEarlier⟩ := Option.ne_none_iff_exists'.mp found
      simp [isEarlier, same]
    · simp [same]
  · rw [store_of_not_any value present, find?_append, find?_singleton]
    by_cases same : key.sameKey (.text name)
    · have isKey := sameKey_text_iff.mp same
      subst isKey
      have missing : find? entries (.text name) = none := by
        rw [find?_eq_none_iff]
        intro entry belongs isEntry
        exact present
          (List.any_eq_true.mpr ⟨entry, belongs, sameKey_text_iff.mpr isEntry⟩)
      simp [missing, same]
    · simp [same]

/-- The entries with further ones stored, one after the other. -/
def storeAll (base entries : List (Value × Value)) : List (Value × Value) :=
  entries.foldl (fun stored entry => store stored entry.1 entry.2) base

@[simp]
theorem storeAll_cons
    (base : List (Value × Value)) (entry : Value × Value)
    (rest : List (Value × Value)) :
    storeAll base (entry :: rest) =
      storeAll (store base entry.1 entry.2) rest :=
  rfl

/-- The last entry of a text counts. -/
theorem find?_storeAll
    (base entries : List (Value × Value)) (name : String) :
    find? (storeAll base entries) (.text name) =
      (find? entries.reverse (.text name)).or (find? base (.text name)) := by
  induction entries generalizing base with
  | nil => simp [storeAll, find?]
  | cons entry rest inductionHypothesis =>
      rw [storeAll_cons, inductionHypothesis, find?_store, List.reverse_cons,
        find?_append, find?_singleton, Option.or_assoc]
      by_cases same : entry.1.sameKey (.text name)
      · simp [same]
      · simp [same]

/-! ## Texts that are keys only once -/

def DistinctTexts (entries : List (Value × Value)) : Prop :=
  entries.Pairwise fun first second =>
    ∀ name, first.1 = .text name → second.1 ≠ .text name

private theorem distinctTexts_store
    {entries : List (Value × Value)}
    (distinct : DistinctTexts entries)
    (key value : Value) :
    DistinctTexts (store entries key value) := by
  by_cases present : (entries.any fun entry => entry.1.sameKey key) = true
  · rw [store_of_any value present, DistinctTexts, List.pairwise_map]
    simp only [fst_replaced]
    exact distinct
  · rw [store_of_not_any value present, DistinctTexts, List.pairwise_append]
    refine ⟨distinct, List.pairwise_singleton _ _, ?_⟩
    intro first belongs second isLast name isFirst isSecond
    have isNew := List.mem_singleton.mp isLast
    subst isNew
    simp only at isSecond
    subst isSecond
    exact present
      (List.any_eq_true.mpr ⟨first, belongs, sameKey_text_iff.mpr isFirst⟩)

theorem distinctTexts_storeAll
    {base : List (Value × Value)}
    (distinct : DistinctTexts base)
    (entries : List (Value × Value)) :
    DistinctTexts (storeAll base entries) := by
  induction entries generalizing base with
  | nil => exact distinct
  | cons entry rest inductionHypothesis =>
      exact inductionHypothesis (distinctTexts_store distinct entry.1 entry.2)

/-- With distinct keys an entry is found from either end. -/
theorem DistinctTexts.find?_reverse
    {entries : List (Value × Value)}
    (distinct : DistinctTexts entries)
    (name : String) :
    find? entries.reverse (.text name) = find? entries (.text name) := by
  induction entries with
  | nil => rfl
  | cons entry rest inductionHypothesis =>
      obtain ⟨first, others⟩ := List.pairwise_cons.mp distinct
      have split := find?_append [entry] rest (.text name)
      rw [List.singleton_append] at split
      rw [List.reverse_cons, find?_append, split, inductionHypothesis others]
      by_cases isEntry : entry.1 = .text name
      · have missing : find? rest (.text name) = none := by
          rw [find?_eq_none_iff]
          intro later belongs
          exact first later belongs name isEntry
        simp [missing]
      · have missing : find? [entry] (.text name) = none := by
          simpa [find?, sameKey_text_iff] using isEntry
        simp [missing]

end Value

namespace Value

/-! ## The keys after storing -/

theorem keys_store_of_any
    {entries : List (Value × Value)} {key : Value} (value : Value)
    (present : (entries.any fun entry => entry.1.sameKey key) = true) :
    (store entries key value).map Prod.fst = entries.map Prod.fst := by
  rw [store_of_any value present, List.map_map]
  exact List.map_congr_left fun entry _ => fst_replaced key value entry

theorem keys_store_of_not_any
    {entries : List (Value × Value)} {key : Value} (value : Value)
    (absent : ¬ (entries.any fun entry => entry.1.sameKey key) = true) :
    (store entries key value).map Prod.fst = entries.map Prod.fst ++ [key] := by
  rw [store_of_not_any value absent, List.map_append, List.map_singleton]

theorem any_sameKey_text_iff
    {entries : List (Value × Value)} {name : String} :
    (entries.any fun entry => entry.1.sameKey (.text name)) = true ↔
      find? entries (.text name) ≠ none := by
  simp [find?]

/-- A condition that only texts meet holds of all keys after storing if it
holds of all keys before and of the new one. -/
theorem forall_keys_store_iff
    {Good : Value → Prop}
    (texts : ∀ key, Good key → ∃ name, key = .text name)
    (base : List (Value × Value)) (key value : Value) :
    (∀ other ∈ (store base key value).map Prod.fst, Good other) ↔
      (∀ other ∈ base.map Prod.fst, Good other) ∧ Good key := by
  by_cases present : (base.any fun entry => entry.1.sameKey key) = true
  · rw [keys_store_of_any value present]
    constructor
    · intro allGood
      obtain ⟨entry, belongs, same⟩ := List.any_eq_true.mp present
      have good := allGood entry.1 (List.mem_map_of_mem belongs)
      obtain ⟨name, isName⟩ := texts entry.1 good
      rw [isName] at same good
      rw [text_sameKey_iff.mp same]
      exact ⟨allGood, good⟩
    · intro allGood
      exact allGood.1
  · rw [keys_store_of_not_any value present, List.forall_mem_append,
      List.forall_mem_singleton]

theorem forall_keys_storeAll_iff
    {Good : Value → Prop}
    (texts : ∀ key, Good key → ∃ name, key = .text name)
    (base entries : List (Value × Value)) :
    (∀ other ∈ (storeAll base entries).map Prod.fst, Good other) ↔
      (∀ other ∈ base.map Prod.fst, Good other) ∧
        ∀ entry ∈ entries, Good entry.1 := by
  induction entries generalizing base with
  | nil => simp [storeAll]
  | cons entry rest inductionHypothesis =>
      rw [storeAll_cons, inductionHypothesis, forall_keys_store_iff texts,
        List.forall_mem_cons, and_assoc]

/-- Storing a good value leaves all values good. -/
theorem forall_values_store
    {Good : Value → Prop} {base : List (Value × Value)} {value : Value}
    (baseGood : ∀ entry ∈ base, Good entry.2)
    (good : Good value)
    (key : Value) :
    ∀ entry ∈ store base key value, Good entry.2 := by
  intro stored belongs
  by_cases present : (base.any fun entry => entry.1.sameKey key) = true
  · rw [store_of_any value present] at belongs
    obtain ⟨earlier, inBase, isStored⟩ := List.mem_map.mp belongs
    subst isStored
    unfold replaced
    split
    · exact good
    · exact baseGood earlier inBase
  · rw [store_of_not_any value present] at belongs
    rcases List.mem_append.mp belongs with inBase | isNew
    · exact baseGood stored inBase
    · rw [List.mem_singleton.mp isNew]
      exact good

theorem forall_values_storeAll
    {Good : Value → Prop} {base entries : List (Value × Value)}
    (baseGood : ∀ entry ∈ base, Good entry.2)
    (entriesGood : ∀ entry ∈ entries, Good entry.2) :
    ∀ entry ∈ storeAll base entries, Good entry.2 := by
  induction entries generalizing base with
  | nil => exact baseGood
  | cons entry rest inductionHypothesis =>
      obtain ⟨first, others⟩ := List.forall_mem_cons.mp entriesGood
      exact inductionHypothesis (forall_values_store baseGood first entry.1) others

/-- Storing under texts adds those texts as keys that were none, each once. -/
theorem exists_added_texts
    (base : List (Value × Value)) {entries : List (Value × Value)}
    (texts : ∀ entry ∈ entries, ∃ name, entry.1 = .text name) :
    ∃ added : List String,
      (storeAll base entries).map Prod.fst =
        base.map Prod.fst ++ added.map .text ∧
      added.Nodup ∧
      ∀ name, name ∈ added ↔
        find? base (.text name) = none ∧ find? entries (.text name) ≠ none := by
  induction entries generalizing base with
  | nil => exact ⟨[], by simp [storeAll], List.nodup_nil, by simp [find?]⟩
  | cons entry rest inductionHypothesis =>
      obtain ⟨⟨name, isText⟩, others⟩ := List.forall_mem_cons.mp texts
      obtain ⟨later, keys, nodup, isLater⟩ :=
        inductionHypothesis (store base (.text name) entry.2) others
      have absentAfter (other : String) :
          find? (store base (.text name) entry.2) (.text other) = none ↔
            name ≠ other ∧ find? base (.text other) = none := by
        rw [find?_store]
        by_cases same : name = other
        · simp [same, sameKey]
        · simp [same, sameKey]
      have foundIn (other : String) :
          find? (entry :: rest) (.text other) ≠ none ↔
            name = other ∨ find? rest (.text other) ≠ none := by
        by_cases same : name = other
        · simp [find?, isText, same, sameKey]
        · simp [find?, isText, same, sameKey]
      simp only [absentAfter] at isLater
      simp only [foundIn, storeAll_cons, isText]
      by_cases absent : find? base (.text name) = none
      · have unseen :
            ¬ (base.any fun entry => entry.1.sameKey (.text name)) = true := by
          rw [any_sameKey_text_iff]
          exact not_not_intro absent
        refine ⟨name :: later, ?_, ?_, ?_⟩
        · rw [keys, keys_store_of_not_any entry.2 unseen]
          simp
        · refine List.nodup_cons.mpr ⟨?_, nodup⟩
          intro belongs
          exact ((isLater name).mp belongs).1.1 rfl
        · intro other
          rw [List.mem_cons, isLater]
          by_cases same : name = other
          · simp [← same, absent]
          · simp [same, Ne.symm same]
      · have seen :
            (base.any fun entry => entry.1.sameKey (.text name)) = true :=
          any_sameKey_text_iff.mpr absent
        refine ⟨later, ?_, nodup, ?_⟩
        · rw [keys, keys_store_of_any entry.2 seen]
        · intro other
          rw [isLater]
          by_cases same : name = other
          · simp [← same, absent]
          · simp [same]

end Value

/-! ## The tables of documents -/

namespace Yaml

namespace Scalar

def IsLeaf (scalar : Scalar) : Prop :=
  ∀ entries, scalar ≠ .plain (.table entries)

private theorem isLeaf_realValue
    (negative : Bool) (chars : List Char) :
    (realValue negative chars).IsLeaf := by
  intro entries
  unfold realValue
  split
  · simp
  · simp

private theorem isLeaf_of_real?
    {chars : List Char} {scalar : Scalar}
    (read : real? chars = some scalar) :
    scalar.IsLeaf := by
  have real := isLeaf_realValue
  unfold real? at read
  grind [sexagesimalReal, IsLeaf]

private theorem isLeaf_of_int?
    {chars : List Char} {scalar : Scalar}
    (read : int? chars = some scalar) :
    scalar.IsLeaf := by
  unfold int? basedInteger? decimalInteger? at read
  grind [IsLeaf, limited]

private theorem isLeaf_ofPlain
    (chars : List Char) :
    (ofPlain chars).IsLeaf := by
  intro entries
  unfold ofPlain
  by_cases isNull : isNull chars
  · simp [isNull]
  rw [if_neg isNull]
  by_cases isDefault : chars = ['=']
  · simp [isDefault]
  rw [if_neg isDefault]
  by_cases isMerge : chars = ['<', '<']
  · simp [isMerge]
  rw [if_neg isMerge]
  cases bool? chars with
  | some value => simp
  | none =>
      cases isReal : real? chars with
      | some scalar => simpa using isLeaf_of_real? isReal entries
      | none =>
          cases isInt : int? chars with
          | some scalar => simpa using isLeaf_of_int? isInt entries
          | none => simp

end Scalar

private theorem Node.distinctTexts_of_value
    {node : Node} {entries : List (Value × Value)}
    (read : node.value = .ok (.table entries)) :
    Value.DistinctTexts entries := by
  cases node with
  | scalar isPlain text =>
      cases isPlain with
      | false => simp [value] at read
      | true =>
          cases spelled : Scalar.ofPlain text with
          | plain leaf =>
              have isTable : leaf = .table entries := by
                simpa [value, spelled] using read
              exact absurd (isTable ▸ spelled) (Scalar.isLeaf_ofPlain text entries)
          | malformed flaw => simp [value, spelled] at read
          | merge => simp [value, spelled] at read
          | default => simp [value, spelled] at read
  | list items =>
      cases inner : values items with
      | error flaw => simp [value, inner, Except.map] at read
      | ok read' => simp [value, inner, Except.map] at read
  | table nodes =>
      by_cases nodup : (nodes.filterMap fun entry => entry.1.keyText?).Nodup
      · cases inner : entryValues nodes with
        | error flaw => simp [value, nodup, inner, bind, Except.bind] at read
        | ok both =>
            have isTable :
                Value.ofEntries (both.1 ++ both.2) = .table entries := by
              simpa [value, nodup, inner, bind, Except.bind, pure, Except.pure]
                using read
            have isEntries : Value.storeAll [] (both.1 ++ both.2) = entries :=
              Value.table.inj isTable
            rw [← isEntries]
            exact Value.distinctTexts_storeAll List.Pairwise.nil _
      · simp [value, nodup] at read

/-- No text is the key of two entries in the table of a document. -/
theorem distinctTexts_of_read
    {text : String} {entries : List (Value × Value)}
    (read : Yaml.read text = .ok (.table entries)) :
    Value.DistinctTexts entries := by
  unfold Yaml.read at read
  split at read
  all_goals
    dsimp only at read
    split at read
    · contradiction
    split at read
    · contradiction
    · obtain ⟨node, _, isValue⟩ := bind_eq_ok_iff.mp read
      exact Node.distinctTexts_of_value isValue

end Yaml

end Chip8
