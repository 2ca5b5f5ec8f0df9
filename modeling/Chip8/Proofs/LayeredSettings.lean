import Mathlib.Data.List.Nodup
import Mathlib.Data.List.Perm.Basic
import Mathlib.Data.List.TakeWhile
import Chip8.Proofs.AcceptedLayers

/-!
# Settings in layers

Where a file is a table of scalars and every override sets one key to a scalar,
the layers are merged by storing one after the other, and what counts for a
setting is its effective value: that of the last override of its name, else that
of the file, else the default.
-/

namespace Chip8.Config

/-- A scalar that refers to no other setting and does not stand for a missing
value. -/
def IsScalar (value : Value) : Prop :=
  isPlain value = true ∧ isMissing value = false

/-- The file is absent, empty or a table of scalars, with the given entries. -/
inductive FlatFile : Option (String × Except FileError (List UInt8)) → Layer → Prop
  | absent : FlatFile none []
  | empty {path text : String} {bytes : List UInt8}
      (decoded : Text.decode bytes = .ok text)
      (read : Yaml.read text = .ok .null) :
      FlatFile (some (path, .ok bytes)) []
  | table {path text : String} {bytes : List UInt8} {entries : Layer}
      (decoded : Text.decode bytes = .ok text)
      (read : Yaml.read text = .ok (.table entries))
      (scalars : ∀ entry ∈ entries, IsScalar entry.2) :
      FlatFile (some (path, .ok bytes)) entries

/-- The text of an override is a key without dots and brackets, an equality
sign and a scalar. -/
structure Assigns (text : String) (assignment : String × Value) : Prop where
  written : ∃ spelled : String,
    text = assignment.1 ++ "=" ++ spelled ∧ Yaml.read spelled = .ok assignment.2
  undivided : ∀ char ∈ assignment.1.toList, char ≠ '=' ∧ char ≠ '.' ∧ char ≠ '['
  scalar : IsScalar assignment.2

def effective (entries : Layer) (assigned : List (String × Value)) (name : String) :
    Value :=
  ((assigned.reverse.lookup name).or (Value.find? entries (.text name))).getD
    (settingValue defaults name)

/-! ## Merging scalars -/

private theorem mergeValue_of_isScalar
    (earlier : Value) {value : Value}
    (scalar : IsScalar value) :
    mergeValue earlier value = .ok value := by
  obtain ⟨plain, present⟩ := scalar
  cases value with
  | text text => simp [mergeValue, present]
  | list items => simp [isPlain] at plain
  | table entries => simp [isPlain] at plain
  | null | bool _ | int _ | real _ => simp [mergeValue, isMissing]

private theorem mergeEntries_of_isScalar
    (base : Layer) {entries : Layer}
    (scalars : ∀ entry ∈ entries, IsScalar entry.2) :
    mergeEntries base entries = .ok (Value.storeAll base entries) := by
  induction entries generalizing base with
  | nil => simp [mergeEntries, Value.storeAll]
  | cons entry rest inductionHypothesis =>
      obtain ⟨first, others⟩ := List.forall_mem_cons.mp scalars
      have rest := inductionHypothesis (Value.store base entry.1 entry.2) others
      obtain ⟨key, value⟩ := entry
      rw [Value.storeAll_cons, mergeEntries]
      cases Value.find? base key with
      | none => exact rest
      | some earlier =>
          simp only [mergeValue_of_isScalar earlier first]
          exact rest

theorem mergeValue_table_of_isScalar
    (base : Layer) {entries : Layer}
    (scalars : ∀ entry ∈ entries, IsScalar entry.2) :
    mergeValue (.table base) (.table entries) =
      .ok (.table (Value.storeAll base entries)) := by
  simp only [mergeValue, mergeEntries_of_isScalar base scalars, Except.map]

theorem contentError?_of_isScalar
    {value : Value}
    (scalar : IsScalar value) :
    contentError? value = none := by
  obtain ⟨plain, _⟩ := scalar
  cases value with
  | list items => simp [isPlain] at plain
  | table entries => simp [isPlain] at plain
  | text text =>
      have noReference : hasReference text.toList = false := by
        simpa [isPlain] using plain
      simp [contentError?, textError?, noReference]
  | null | bool _ | int _ | real _ => simp [contentError?]

/-! ## Overrides -/

private theorem splitPath_of_undivided
    {key : String}
    (undivided : ∀ char ∈ key.toList, char ≠ '.' ∧ char ≠ '[') :
    splitPath key = [key] := by
  have noDots : key.toList.takeWhile (· = '.') = [] := by
    cases isKey : key.toList with
    | nil => rfl
    | cons first rest =>
        have notDot := (undivided first (by simp [isKey])).1
        simp [notDot]
  have afterDots : key.toList.dropWhile (· = '.') = key.toList := by
    have whole := List.takeWhile_append_dropWhile (p := (· = '.')) (l := key.toList)
    rwa [noDots, List.nil_append] at whole
  have inside :
      ∀ char ∈ key.toList, (char ≠ '.' && char ≠ '[') = true := by
    intro char belongs
    simpa using undivided char belongs
  have head := List.takeWhile_eq_self_iff.mpr inside
  have others := List.dropWhile_eq_nil_iff.mpr inside
  simp only [splitPath, noDots, afterDots, head, others]
  simp [pathParts]

theorem Assigns.ofText
    {text : String} {assignment : String × Value}
    (assigns : Assigns text assignment) :
    Override.ofText text = .ok ⟨[assignment.1], assignment.2⟩ := by
  obtain ⟨spelled, rfl, read⟩ := assigns.written
  have noSign : ∀ char ∈ assignment.1.toList, (!decide (char = '=')) = true := by
    intro char belongs
    simpa using (assigns.undivided char belongs).1
  have path : splitPath assignment.1 = [assignment.1] :=
    splitPath_of_undivided fun char belongs => (assigns.undivided char belongs).2
  simp [Override.ofText, List.takeWhile_append_of_pos noSign,
    List.dropWhile_append_of_pos noSign, path, read, Except.map]

def assignedEntry (assignment : String × Value) : Value × Value :=
  (.text assignment.1, assignment.2)

private theorem storeAt_single
    (entries : Layer) (key : String) {value : Value}
    (scalar : IsScalar value) :
    storeAt (some (.table entries)) [key] value =
      .ok (.table (Value.store entries (.text key) value)) := by
  have assigned (current : Option Value) : assign current value = .ok value := by
    unfold assign
    split
    · exact absurd scalar.1 (by simp [isPlain])
    · exact absurd scalar.1 (by simp [isPlain])
    · exact absurd scalar.1 (by simp [isPlain])
    · rfl
  simp [storeAt, assigned, bind, Except.bind, pure, Except.pure]

theorem Assigns.storeOverride
    {text : String} {assignment : String × Value}
    (assigns : Assigns text assignment) (entries : Layer) :
    storeOverride (.table entries) text =
      .ok (.table
        (Value.store entries (.text assignment.1) assignment.2)) := by
  simp [Config.storeOverride, assigns.ofText, Override.contentError?,
    contentError?_of_isScalar assigns.scalar,
    storeAt_single entries _ assigns.scalar, bind, Except.bind]

/-- Overrides that assign scalars are stored in their order. -/
theorem overrideLayer_of_assigns
    {texts : List String} {assigned : List (String × Value)}
    (assigns : List.Forall₂ Assigns texts assigned) :
    overrideLayer texts =
      .ok (.table (Value.storeAll [] (assigned.map assignedEntry))) := by
  unfold overrideLayer
  generalize ([] : Layer) = base
  induction assigns generalizing base with
  | nil => rfl
  | cons first _ inductionHypothesis =>
      rw [List.map_cons, Value.storeAll_cons, List.foldlM_cons,
        ← inductionHypothesis, first.storeOverride]
      rfl

theorem find?_map_assignedEntry
    (assigned : List (String × Value)) (name : String) :
    Value.find? (assigned.map assignedEntry) (.text name) =
      assigned.lookup name := by
  induction assigned with
  | nil => rfl
  | cons assignment rest inductionHypothesis =>
      have split :=
        Value.find?_append [assignedEntry assignment] (rest.map assignedEntry)
          (.text name)
      rw [List.singleton_append] at split
      obtain ⟨key, value⟩ := assignment
      rw [List.map_cons, split, inductionHypothesis, List.lookup_cons]
      by_cases same : name = key
      · simp [assignedEntry, Value.sameKey, same]
      · have other : ¬ key = name := fun equal => same equal.symm
        have missed : (name == key) = false := beq_eq_false_iff_ne.mpr same
        simp [assignedEntry, Value.sameKey, missed, other]

/-! ## The merged layer -/

def layered (entries : Layer) (assigned : List (String × Value)) : Layer :=
  Value.storeAll (Value.storeAll defaults entries)
    (Value.storeAll [] (assigned.map assignedEntry))

private theorem isScalar_of_mem_defaults :
    ∀ entry ∈ defaults, IsScalar entry.2 := by
  have each : ∀ entry ∈ defaults, isPlain entry.2 ∧ !isMissing entry.2 := by
    decide +kernel
  intro entry belongs
  simpa [IsScalar] using each entry belongs

private theorem isScalar_of_assigns
    {texts : List String} {assigned : List (String × Value)}
    (assigns : List.Forall₂ Assigns texts assigned) :
    ∀ entry ∈ assigned.map assignedEntry, IsScalar entry.2 := by
  induction assigns with
  | nil => exact List.forall_mem_nil _
  | cons first _ inductionHypothesis =>
      exact List.forall_mem_cons.mpr ⟨first.scalar, inductionHypothesis⟩

private theorem mergedLayer_of_isScalar
    {entries : Layer} {texts : List String} {assigned : List (String × Value)}
    (scalars : ∀ entry ∈ entries, IsScalar entry.2)
    (assigns : List.Forall₂ Assigns texts assigned) :
    mergedLayer (.table entries)
        (.table (Value.storeAll [] (assigned.map assignedEntry))) =
      .ok (layered entries assigned) := by
  have overrides :
      ∀ entry ∈ Value.storeAll [] (assigned.map assignedEntry),
        IsScalar entry.2 :=
    Value.forall_values_storeAll (List.forall_mem_nil _)
      (isScalar_of_assigns assigns)
  have all : ∀ entry ∈ layered entries assigned, IsScalar entry.2 :=
    Value.forall_values_storeAll
      (Value.forall_values_storeAll isScalar_of_mem_defaults scalars) overrides
  have resolved :=
    resolveEntries_of_isPlain (layered entries assigned)
      ((layered entries assigned).length + 1)
      fun entry belongs => (all entry belongs).1
  simp only [mergedLayer, mergeValue_table_of_isScalar _ scalars,
    mergeValue_table_of_isScalar _ overrides, mapError_ok, bind, Except.bind]
  rw [← layered, resolved, mapError_ok]

/-- Of a setting the last override counts, then the file, then the default. -/
theorem settingValue_layered
    {entries : Layer}
    (distinct : Value.DistinctTexts entries)
    (assigned : List (String × Value)) (name : String) :
    settingValue (layered entries assigned) name =
      effective entries assigned name := by
  have overrides :
      Value.DistinctTexts (Value.storeAll [] (assigned.map assignedEntry)) :=
    Value.distinctTexts_storeAll List.Pairwise.nil _
  have nothing : Value.find? [] (.text name) = none := rfl
  rw [settingValue, layered, Value.find?_storeAll, overrides.find?_reverse,
    Value.find?_storeAll, ← List.map_reverse, find?_map_assignedEntry, nothing,
    Option.or_none, Value.find?_storeAll, distinct.find?_reverse,
    ← Option.or_assoc, effective, settingValue]
  cases (assigned.reverse.lookup name).or (Value.find? entries (.text name)) with
  | none => simp
  | some value => simp

/-! ## Known keys -/

/-- The layers have no unknown keys exactly if the file and the overrides have
none. -/
theorem unknownKeys_layered_eq_nil_iff
    (entries : Layer) (assigned : List (String × Value)) :
    unknownKeys (layered entries assigned) = [] ↔
      (∀ entry ∈ entries, IsSetting entry.1) ∧
        ∀ assignment ∈ assigned, assignment.1 ∈ names := by
  have texts (key : Value) (known : IsSetting key) :
      ∃ name, key = .text name := by
    obtain ⟨name, _, isName⟩ := known
    exact ⟨name, isName⟩
  have ownKeys : ∀ key ∈ defaults.map Prod.fst, IsSetting key :=
    unknownKeys_eq_nil_iff.mp rfl
  have assignedKeys :
      (∀ entry ∈ Value.storeAll [] (assigned.map assignedEntry),
          IsSetting entry.1) ↔
        ∀ assignment ∈ assigned, assignment.1 ∈ names := by
    have stored :=
      Value.forall_keys_storeAll_iff texts [] (assigned.map assignedEntry)
    have named :
        (∀ entry ∈ assigned.map assignedEntry, IsSetting entry.1) ↔
          ∀ assignment ∈ assigned, assignment.1 ∈ names := by
      rw [List.forall_mem_map]
      simp only [assignedEntry, isSetting_text_iff]
    rw [List.forall_mem_map, named] at stored
    simpa using stored
  rw [unknownKeys_eq_nil_iff, layered, Value.forall_keys_storeAll_iff texts,
    Value.forall_keys_storeAll_iff texts, assignedKeys]
  constructor
  · intro known
    exact ⟨known.1.2, known.2⟩
  · intro known
    exact ⟨⟨ownKeys, known.1⟩, known.2⟩

/-! ## Flat settings -/

private theorem optionalFileLayer_of_flat
    {file : Option (String × Except FileError (List UInt8))} {entries : Layer}
    (flat : FlatFile file entries) :
    optionalFileLayer file = checked (.table entries) := by
  cases flat with
  | absent => simp [optionalFileLayer, checked, contentError?, entriesError?, pure, Except.pure]
  | empty decoded read | table decoded read _ =>
      simp [optionalFileLayer, fileLayer, documentValue, decoded, read, bind,
        Except.bind]

theorem FlatFile.scalars_distinct
    {file : Option (String × Except FileError (List UInt8))} {entries : Layer}
    (flat : FlatFile file entries) :
    (∀ entry ∈ entries, IsScalar entry.2) ∧ Value.DistinctTexts entries := by
  cases flat with
  | absent => exact ⟨List.forall_mem_nil _, List.Pairwise.nil⟩
  | empty _ _ => exact ⟨List.forall_mem_nil _, List.Pairwise.nil⟩
  | table _ read scalars => exact ⟨scalars, Yaml.distinctTexts_of_read read⟩

/-- A file and overrides that hold scalars only are layered without a conflict.
-/
theorem load_of_flat
    {file : Option (String × Except FileError (List UInt8))} {entries : Layer}
    {texts : List String} {assigned : List (String × Value)}
    (flat : FlatFile file entries)
    (assigns : List.Forall₂ Assigns texts assigned) :
    load file texts =
      checked (.table entries) >>= fun _ =>
        ofLayer (layered entries assigned) := by
  obtain ⟨scalars, _⟩ := flat.scalars_distinct
  rw [load, loadBy, readLayers, optionalFileLayer_of_flat flat,
    overrideLayer_of_assigns assigns, checked]
  split
  · rfl
  · simp only [mergedLayer_of_isScalar scalars assigns, bind, Except.bind]

/-- A table of settings with scalar values has no flaws. -/
theorem checked_of_isSetting
    {entries : Layer}
    (scalars : ∀ entry ∈ entries, IsScalar entry.2)
    (known : ∀ entry ∈ entries, IsSetting entry.1) :
    checked (.table entries) = .ok (.table entries) := by
  have noError : entriesError? entries = none := by
    induction entries with
    | nil => simp [entriesError?]
    | cons entry rest inductionHypothesis =>
        obtain ⟨firstScalar, otherScalars⟩ := List.forall_mem_cons.mp scalars
        obtain ⟨firstKnown, othersKnown⟩ := List.forall_mem_cons.mp known
        have others := inductionHypothesis otherScalars othersKnown
        obtain ⟨key, value⟩ := entry
        obtain ⟨name, _, isName⟩ := firstKnown
        simp only at isName
        subst isName
        simp [entriesError?, contentError?_of_isScalar firstScalar, others]
  rw [checked, contentError?, noError]

/-! ## The order of overrides -/

theorem exists_name_of_mem_overrides
    (assigned : List (String × Value)) :
    ∀ entry ∈ Value.storeAll [] (assigned.map assignedEntry),
      ∃ name, entry.1 = .text name := by
  have named :
      ∀ entry ∈ assigned.map assignedEntry, ∃ name, entry.1 = .text name := by
    rw [List.forall_mem_map]
    exact fun assignment _ => ⟨assignment.1, rfl⟩
  obtain ⟨added, keys, _⟩ := Value.exists_added_texts [] named
  intro entry belongs
  have isKey := List.mem_map_of_mem (f := Prod.fst) belongs
  rw [keys, List.map_nil, List.nil_append] at isKey
  obtain ⟨name, _, isName⟩ := List.mem_map.mp isKey
  exact ⟨name, isName.symm⟩

/-- Only the last override of each key has an influence. -/
theorem load_congr
    {file : Option (String × Except FileError (List UInt8))} {entries : Layer}
    {texts others : List String} {assigned reassigned : List (String × Value)}
    (flat : FlatFile file entries)
    (assigns : List.Forall₂ Assigns texts assigned)
    (reassigns : List.Forall₂ Assigns others reassigned)
    (same : ∀ name,
      reassigned.reverse.lookup name = assigned.reverse.lookup name) :
    load file others = load file texts := by
  obtain ⟨_, distinct⟩ := flat.scalars_distinct
  have found (name : String) :
      Value.find? (Value.storeAll [] (reassigned.map assignedEntry)) (.text name) =
        Value.find? (Value.storeAll [] (assigned.map assignedEntry))
          (.text name) := by
    rw [Value.find?_storeAll, Value.find?_storeAll, ← List.map_reverse,
      ← List.map_reverse, find?_map_assignedEntry, find?_map_assignedEntry, same]
  have unknown :
      checkUnknown (unknownKeys (layered entries reassigned)) =
        checkUnknown (unknownKeys (layered entries assigned)) := by
    obtain ⟨added, keys, nodup, isAdded⟩ :=
      Value.exists_added_texts (Value.storeAll defaults entries)
        (exists_name_of_mem_overrides reassigned)
    obtain ⟨added', keys', nodup', isAdded'⟩ :=
      Value.exists_added_texts (Value.storeAll defaults entries)
        (exists_name_of_mem_overrides assigned)
    have permuted : added.Perm added' := by
      rw [List.perm_ext_iff_of_nodup nodup nodup']
      intro name
      rw [isAdded, isAdded', found]
    rw [unknownKeys, unknownKeys, layered, layered, keys, keys']
    simp only [List.filter_append, List.filter_map]
    exact checkUnknown_append_perm _ (permuted.filter _)
  have sameSettings :
      ofLayer (layered entries reassigned) =
        ofLayer (layered entries assigned) := by
    refine ofLayer_congr unknown fun name => ?_
    rw [settingValue_layered distinct, settingValue_layered distinct, effective,
      effective, same]
  rw [load_of_flat flat reassigns, load_of_flat flat assigns, sameSettings]

theorem lookup_eq_head?_filter
    (assigned : List (String × Value)) (name : String) :
    assigned.lookup name =
      (assigned.filter fun assignment => assignment.1 = name).head?.map
        Prod.snd := by
  induction assigned with
  | nil => rfl
  | cons assignment rest inductionHypothesis =>
      rw [List.lookup_cons, List.filter_cons, inductionHypothesis]
      by_cases same : assignment.1 = name
      · simp [same]
      · have missed : (name == assignment.1) = false :=
          beq_eq_false_iff_ne.mpr (Ne.symm same)
        simp [same, missed]

theorem lookup_reverse_of_filter
    {assigned reassigned : List (String × Value)} {name : String}
    (same :
      (reassigned.filter fun assignment => assignment.1 = name) =
        assigned.filter fun assignment => assignment.1 = name) :
    reassigned.reverse.lookup name = assigned.reverse.lookup name := by
  rw [lookup_eq_head?_filter, lookup_eq_head?_filter, List.filter_reverse,
    List.filter_reverse, same]

/-- If every setting is assigned once, the order of the assignments makes no
difference to any of them. -/
theorem filter_of_perm
    {assigned reassigned : List (String × Value)}
    (permuted : reassigned.Perm assigned)
    (nodup : (assigned.map Prod.fst).Nodup)
    (name : String) :
    (reassigned.filter fun assignment => assignment.1 = name) =
      assigned.filter fun assignment => assignment.1 = name := by
  have atMostOne :
      (assigned.filter fun assignment => assignment.1 = name).length ≤ 1 := by
    have once := List.nodup_iff_count_le_one.mp nodup name
    rw [List.count, List.countP_map, List.countP_eq_length_filter] at once
    simpa only [Function.comp_def, beq_eq_decide] using once
  have filtered :=
    permuted.filter fun assignment : String × Value => assignment.1 = name
  cases isFiltered : assigned.filter fun assignment => assignment.1 = name with
  | nil =>
      rw [isFiltered] at filtered
      exact List.perm_nil.mp filtered
  | cons first rest =>
      rw [isFiltered, List.length_cons] at atMostOne
      have single : rest = [] := List.eq_nil_of_length_eq_zero (by omega)
      rw [isFiltered, single] at filtered
      rw [single]
      exact List.perm_singleton.mp filtered

/-! ## The effective values -/

def sameScalar : Value → Value → Bool
  | .null, .null => true
  | .bool first, .bool second => first = second
  | .int first, .int second => first = second
  | .text first, .text second => first = second
  | _, _ => false

theorem eq_of_sameScalar
    {first second : Value}
    (same : sameScalar first second = true) :
    first = second := by
  cases first <;> cases second <;> simp_all [sameScalar]

/-- Whether two tables of scalars other than reals are equal. -/
def sameEntries : Layer → Layer → Bool
  | [], [] => true
  | first :: rest, second :: others =>
      sameScalar first.1 second.1 && sameScalar first.2 second.2 &&
        sameEntries rest others
  | _, _ => false

private theorem eq_of_sameEntries
    {first second : Layer}
    (same : sameEntries first second = true) :
    first = second := by
  induction first generalizing second with
  | nil =>
      cases second with
      | nil => rfl
      | cons entry rest => simp [sameEntries] at same
  | cons entry rest inductionHypothesis =>
      cases second with
      | nil => simp [sameEntries] at same
      | cons other others =>
          simp only [sameEntries, Bool.and_eq_true] at same
          obtain ⟨⟨keys, values⟩, later⟩ := same
          rw [inductionHypothesis later,
            Prod.ext (eq_of_sameScalar keys) (eq_of_sameScalar values)]

/-- Whether a text is a document of the given scalar or table of scalars. -/
def spells (text : String) (value : Value) : Bool :=
  match Yaml.read text, value with
  | .ok (.table read), .table entries => sameEntries read entries
  | .ok read, value => sameScalar read value
  | .error _, _ => false

theorem read_of_spells
    {text : String} {value : Value}
    (spelled : spells text value = true) :
    Yaml.read text = .ok value := by
  unfold spells at spelled
  split at spelled
  next read entries isRead => rw [isRead, eq_of_sameEntries spelled]
  next read isRead _ => rw [isRead, eq_of_sameScalar spelled]
  next => contradiction

/-- The bytes of a file that sets the rate and the scale. -/
def slowFile : List UInt8 := "fps: 30\nscale: 4\n".toUTF8.toList

def slowEntries : Layer :=
  [(.text "fps", .int 30), (.text "scale", .int 4)]

def fasterTexts : List String :=
  ["fps=50", "stack_limit=16", "halt_on_fault=false", "log_level=debug"]

def fasterValues : List (String × Value) :=
  [("fps", .int 50), ("stack_limit", .int 16), ("halt_on_fault", .bool false),
    ("log_level", .text "debug")]

private theorem flatFile_slow :
    FlatFile (some ("run.yaml", .ok slowFile)) slowEntries := by
  have decoded : Text.decode slowFile = .ok "fps: 30\nscale: 4\n" := by
    decide +kernel
  refine .table decoded (read_of_spells (by decide +kernel)) ?_
  simp [slowEntries, IsScalar, isPlain, isMissing]

theorem assigns_of_spells
    {text key : String} {value : Value} (spelled : String)
    (written : text = key ++ "=" ++ spelled)
    (undivided : (key.toList.all fun char =>
      char ≠ '=' && char ≠ '.' && char ≠ '[') = true)
    (scalar : (isPlain value && !isMissing value) = true)
    (spelling : spells spelled value = true) :
    Assigns text (key, value) where
  written := ⟨spelled, written, read_of_spells spelling⟩
  undivided := by simpa [and_assoc] using undivided
  scalar := by simpa [IsScalar] using scalar

private theorem assigns_faster :
    List.Forall₂ Assigns fasterTexts fasterValues := by
  have fps : Assigns "fps=50" ("fps", .int 50) :=
    assigns_of_spells "50" rfl (by decide) rfl (by decide +kernel)
  have limit : Assigns "stack_limit=16" ("stack_limit", .int 16) :=
    assigns_of_spells "16" rfl (by decide) rfl (by decide +kernel)
  have halt : Assigns "halt_on_fault=false" ("halt_on_fault", .bool false) :=
    assigns_of_spells "false" rfl (by decide) rfl (by decide +kernel)
  have level : Assigns "log_level=debug" ("log_level", .text "debug") :=
    assigns_of_spells "debug" rfl (by decide) rfl (by decide +kernel)
  exact .cons fps (.cons limit (.cons halt (.cons level .nil)))

end Chip8.Config
