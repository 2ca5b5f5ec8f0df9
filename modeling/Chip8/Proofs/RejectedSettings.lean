import Chip8.Proofs.AcceptedLayers
import Chip8.Proofs.FailingLayers
import Chip8.Proofs.ScriptedCommand

/-!
# Rejected settings

Settings can be rejected at every step of loading: when the file is read, when
the overrides are read and stored, when the layers are merged and their
references followed, and when the merged layer is checked.  `Escapes` says of
what the file and the overrides hold when the command breaks off at an error
instead of reporting it, and of which class the error is.
-/

namespace Chip8

namespace Config

/-! ## The merged layers -/

/-- A document contributes a table or a list. -/
theorem FileGives.isContainer
    {file : Option (String × Except FileError (List UInt8))} {value : Value}
    (gives : FileGives file value) :
    (∃ entries, value = .table entries) ∨ ∃ items, value = .list items := by
  have ofGives : ∀ {document value}, Gives document value →
      (∃ entries, value = .table entries) ∨ ∃ items, value = .list items := by
    intro document value gives
    cases gives with
    | nothing => exact .inl ⟨_, rfl⟩
    | table entries => exact .inl ⟨_, rfl⟩
    | list items => exact .inr ⟨_, rfl⟩
  cases gives with
  | absent => exact .inl ⟨_, rfl⟩
  | present _ _ gives _ =>
      cases gives with
      | plain gives => exact ofGives gives
      | again _ gives => exact ofGives gives
      | key _ => exact .inl ⟨_, rfl⟩

theorem mergeValue_table_eq_ok_iff
    {base entries : Layer} {merged : Value} :
    mergeValue (.table base) (.table entries) = .ok merged ↔
      ∃ both, mergeEntries base entries = .ok both ∧ merged = .table both := by
  rw [mergeValue]
  cases mergeEntries base entries with
  | error error => simp [Except.map]
  | ok both => simp [Except.map, eq_comm]

private theorem mergedLayer_eq_ok_iff
    {fileEntries overrideEntries merged : Layer} :
    mergedLayer (.table fileEntries) (.table overrideEntries) = .ok merged ↔
      ∃ base entries, mergeEntries defaults fileEntries = .ok base ∧
        mergeEntries base overrideEntries = .ok entries ∧
        resolveEntries entries (entries.length + 1) entries = .ok merged := by
  simp only [mergedLayer, bind_eq_ok_iff, mapError_eq_ok_iff,
    mergeValue_table_eq_ok_iff]
  constructor
  · rintro ⟨_, ⟨base, isBase, rfl⟩, _, isMerged, resolved⟩
    obtain ⟨entries, isEntries, rfl⟩ := mergeValue_table_eq_ok_iff.mp isMerged
    exact ⟨base, entries, isBase, isEntries, mapError_eq_ok_iff.mp resolved⟩
  · rintro ⟨base, entries, isBase, isEntries, resolved⟩
    exact ⟨_, ⟨base, isBase, rfl⟩, _,
      mergeValue_table_eq_ok_iff.mpr ⟨entries, isEntries, rfl⟩,
      mapError_eq_ok_iff.mpr resolved⟩

private theorem flaws_defaults : flaws (.table defaults) = [] := by
  decide +kernel

/-- Merging layers without flaws stops the command only if they clash. -/
theorem fails_mergedLayer_iff
    {errorClass : ErrorClass} (unreported : errorClass.isReported = false)
    {fileValue : Value} {overrideEntries : Layer}
    (isContainer :
      (∃ entries, fileValue = .table entries) ∨ ∃ items, fileValue = .list items)
    (soundFile : flaws fileValue = [])
    (soundOverrides : flaws (.table overrideEntries) = []) :
    Fails errorClass (mergedLayer fileValue (.table overrideEntries)) ↔
      errorClass = .kind ∧
        (Clash (.table defaults) fileValue ∨
          ∃ base, mergeValue (.table defaults) fileValue = .ok base ∧
            Clash base (.table overrideEntries)) := by
  unfold mergedLayer
  simp only [fails_bind_iff, fails_mapError_iff, mapError_eq_ok_iff,
    mergeValue_eq_error_iff]
  constructor
  · rintro (⟨_, ⟨rfl, clash⟩, isClass⟩ | ⟨base, isBase, later⟩)
    · cases isClass
      exact ⟨rfl, .inl clash⟩
    rcases later with ⟨_, ⟨rfl, clash⟩, isClass⟩ | ⟨merged, isMerged, fails⟩
    · cases isClass
      exact ⟨rfl, .inr ⟨base, isBase, clash⟩⟩
    rcases isContainer with ⟨fileEntries, rfl⟩ | ⟨items, rfl⟩
    · obtain ⟨base, -, rfl⟩ := mergeValue_table_eq_ok_iff.mp isBase
      have soundBase := flaws_mergeValue flaws_defaults soundFile isBase
      have soundMerged := flaws_mergeValue soundBase soundOverrides isMerged
      obtain ⟨entries, -, rfl⟩ := mergeValue_table_eq_ok_iff.mp isMerged
      obtain ⟨error, isError, isClass⟩ := fails_mapError_iff.mp fails
      have reported :=
        class?_of_resolveEntries soundMerged
          (fun less _ => reportsReferences soundMerged less) entries soundMerged
          isError
      have isValue : some errorClass = some .value := isClass.symm.trans reported
      cases isValue
      cases unreported
    · simp only [mergeValue] at isBase
      cases isBase
  · rintro ⟨rfl, clash | ⟨base, isBase, clash⟩⟩
    · exact .inl ⟨_, ⟨rfl, clash⟩, rfl⟩
    · exact .inr ⟨base, isBase, .inl ⟨_, ⟨rfl, clash⟩, rfl⟩⟩

/-! ## The settings -/

/-- The error of unknown keys escapes exactly if they cannot be sorted: one is a
text and another one is not. -/
theorem fails_checkUnknown_iff
    {errorClass : ErrorClass} (unreported : errorClass.isReported = false)
    {keys : List Value} :
    Fails errorClass (checkUnknown keys) ↔
      errorClass = .kind ∧ (∃ key ∈ keys, isText key = true) ∧
        ∃ key ∈ keys, isText key = false := by
  have notValue := (ne_of_unreported unreported).1
  by_cases known : keys = []
  · subst known
    simp [checkUnknown]
  rw [checkUnknown_of_ne_nil known]
  cases found : keys.find? (!isText ·) with
  | none =>
      have texts : ∀ key ∈ keys, isText key = true := by
        simpa using List.find?_eq_none.mp found
      simp only [fails_error_iff, LoadError.class?, Option.some.injEq,
        notValue.symm, false_iff]
      rintro ⟨-, -, key, belongs, isOther⟩
      rw [texts key belongs] at isOther
      cases isOther
  | some other =>
      have isOther : isText other = false := by
        simpa using List.find?_some found
      have belongs := List.mem_of_find?_eq_some found
      by_cases mixed : keys.any isText = true
      · simp only [mixed, if_true, fails_error_iff, LoadError.class?,
          Option.some.injEq]
        constructor
        · rintro rfl
          exact ⟨rfl, List.any_eq_true.mp mixed, other, belongs, isOther⟩
        · rintro ⟨rfl, -⟩
          rfl
      · simp only [mixed, Bool.false_eq_true, if_false, fails_error_iff,
          LoadError.class?, Option.some.injEq, notValue.symm, false_iff]
        rintro ⟨-, noText, -⟩
        exact mixed (List.any_eq_true.mpr noText)

section

variable {errorClass : ErrorClass} (unreported : errorClass.isReported = false)

include unreported

theorem not_fails_of_value
    {error : LoadError} (isValue : error.class? = some .value) {α : Type} :
    ¬ Fails errorClass (.error error : Except LoadError α) := by
  rw [fails_error_iff, isValue, Option.some.injEq]
  exact (ne_of_unreported unreported).1.symm

variable (layer : Layer) (name : String)

private theorem not_fails_integer : ¬ Fails errorClass (integer layer name) := by
  unfold integer
  split
  · exact not_fails_of_value unreported rfl
  · exact not_fails_ok _
  · exact not_fails_of_value unreported rfl

private theorem not_fails_optionalInteger :
    ¬ Fails errorClass (optionalInteger layer name) := by
  unfold optionalInteger
  split
  · exact not_fails_ok _
  · exact not_fails_ok _
  · exact not_fails_of_value unreported rfl

private theorem not_fails_boolean : ¬ Fails errorClass (boolean layer name) := by
  unfold boolean
  split
  · exact not_fails_of_value unreported rfl
  · exact not_fails_ok _
  · exact not_fails_of_value unreported rfl

private theorem not_fails_word : ¬ Fails errorClass (word layer name) := by
  unfold word
  split
  · exact not_fails_of_value unreported rfl
  · split
    · exact not_fails_ok _
    · exact not_fails_of_value unreported rfl

/-- Whatever goes wrong behind the check of the keys is reported. -/
theorem fails_ofLayer_iff :
    Fails errorClass (ofLayer layer) ↔
      Fails errorClass (checkUnknown (unknownKeys layer)) := by
  have notValue := (ne_of_unreported unreported).1
  simp [ofLayer, fails_bind_iff, fails_mapError_iff, not_fails_integer unreported,
    not_fails_optionalInteger unreported, not_fails_boolean unreported,
    not_fails_word unreported, LoadError.class?, notValue.symm]

end

theorem mem_unknownKeys_iff
    {layer : Layer} {key : Value} :
    key ∈ unknownKeys layer ↔ key ∈ layer.map Prod.fst ∧ ¬ IsSetting key := by
  rw [unknownKeys, List.mem_filter]
  simp [IsSetting]

private theorem isSetting_of_mem_defaults
    {key : Value} (belongs : key ∈ defaults.map Prod.fst) :
    IsSetting key := by
  have known : unknownKeys defaults = [] := by decide +kernel
  by_contra unknown
  have isUnknown := mem_unknownKeys_iff.mpr ⟨belongs, unknown⟩
  rw [known] at isUnknown
  cases isUnknown

private theorem isText_eq_of_sameKey
    {first second : Value} (same : first.sameKey second = true) :
    isText first = isText second := by
  cases second with
  | text name => rw [Value.sameKey_text_iff.mp same]
  | null | bool _ | int _ | real _ | list _ | table _ =>
      cases first with
      | text name => cases Value.text_sameKey_iff.mp same
      | null | bool _ | int _ | real _ | list _ | table _ => rfl

private theorem isSetting_congr
    {first second : Value} (same : first.sameKey second = true)
    (sameKind : isText first = isText second) :
    IsSetting first ↔ IsSetting second := by
  cases second with
  | text name => rw [Value.sameKey_text_iff.mp same]
  | null | bool _ | int _ | real _ | list _ | table _ =>
      cases first with
      | text name => cases sameKind
      | null | bool _ | int _ | real _ | list _ | table _ => simp [IsSetting]

/-- The unknown keys of the merged layers are those of the file and of the
overrides. -/
theorem exists_unknownKey_iff
    {fileEntries overrideEntries merged : Layer}
    (isMerged :
      mergedLayer (.table fileEntries) (.table overrideEntries) = .ok merged)
    (ofText : Bool) :
    (∃ key ∈ unknownKeys merged, isText key = ofText) ↔
      ∃ key ∈ unknownKeys (fileEntries ++ overrideEntries), isText key = ofText := by
  obtain ⟨base, entries, isBase, isEntries, resolved⟩ :=
    mergedLayer_eq_ok_iff.mp isMerged
  have sameGood : ∀ first second : Value, first.sameKey second = true →
      ((¬ IsSetting first ∧ isText first = ofText) ↔
        (¬ IsSetting second ∧ isText second = ofText)) := by
    intro first second same
    have sameKind := isText_eq_of_sameKey same
    rw [isSetting_congr same sameKind, sameKind]
  have noDefault :
      ¬ ∃ key ∈ defaults.map Prod.fst, ¬ IsSetting key ∧ isText key = ofText := by
    rintro ⟨key, belongs, unknown, -⟩
    exact unknown (isSetting_of_mem_defaults belongs)
  simp only [mem_unknownKeys_iff, and_assoc]
  rw [keys_resolveEntries resolved, exists_key_mergeEntries_iff sameGood isEntries,
    exists_key_mergeEntries_iff sameGood isBase, or_iff_right noDefault,
    List.map_append]
  simp only [List.mem_append, or_and_right, exists_or]

/-! ## All steps -/

/-- The command breaks off at the file or the overrides, with an error of a
class. -/
inductive Escapes (file : Option (String × Except FileError (List UInt8)))
    (overrides : List String) : ErrorClass → Prop
  /-- The document of the file is a text that spells a number or a truth
  value. -/
  | document (spells : SpellsNumber file) : Escapes file overrides .assertion
  /-- The first flaw of the document is a malformed reference. -/
  | reference {fileValue : Value}
      (gives : FileGives file fileValue)
      (malformed : (flaws fileValue).head? = some .reference) :
      Escapes file overrides .grammar
  /-- An override behind others that can be stored is malformed or does not
  fit. -/
  | override {fileValue layer : Value} {before after : List String}
      {text : String} {errorClass : ErrorClass}
      (gives : FileGives file fileValue)
      (sound : flaws fileValue = [])
      (split : overrides = before ++ text :: after)
      (earlier : Amounts (.table []) before layer)
      (escapes : Override.Escapes layer text errorClass) :
      Escapes file overrides errorClass
  /-- The document clashes with the defaults. -/
  | fileClash {fileValue layer : Value}
      (gives : FileGives file fileValue)
      (sound : flaws fileValue = [])
      (amounts : Amounts (.table []) overrides layer)
      (clash : Clash (.table defaults) fileValue) :
      Escapes file overrides .kind
  /-- The overrides clash with the document on top of the defaults. -/
  | overrideClash {fileValue base layer : Value}
      (gives : FileGives file fileValue)
      (sound : flaws fileValue = [])
      (amounts : Amounts (.table []) overrides layer)
      (isBase : mergeValue (.table defaults) fileValue = .ok base)
      (clash : Clash base layer) :
      Escapes file overrides .kind
  /-- Of the unknown keys one is a text and another one is not. -/
  | order {fileEntries overrideEntries merged : Layer} {first second : Value}
      (gives : FileGives file (.table fileEntries))
      (sound : flaws (.table fileEntries) = [])
      (amounts : Amounts (.table []) overrides (.table overrideEntries))
      (isMerged :
        mergedLayer (.table fileEntries) (.table overrideEntries) = .ok merged)
      (firstUnknown : first ∈ unknownKeys (fileEntries ++ overrideEntries))
      (secondUnknown : second ∈ unknownKeys (fileEntries ++ overrideEntries))
      (firstText : isText first = true)
      (secondOther : isText second = false) :
      Escapes file overrides .kind

section

variable {file : Option (String × Except FileError (List UInt8))}
  {overrides : List String}

/-- An error of loading comes from the file, from the overrides, from merging
them or from the merged layer. -/
theorem fails_load_iff
    {errorClass : ErrorClass} :
    Fails errorClass (load file overrides) ↔
      Fails errorClass (optionalFileLayer file) ∨
        ∃ fileValue, (FileGives file fileValue ∧ flaws fileValue = []) ∧
          (Fails errorClass (overrideLayer overrides) ∨
            ∃ layer, Amounts (.table []) overrides layer ∧
              (Fails errorClass (mergedLayer fileValue layer) ∨
                ∃ merged, mergedLayer fileValue layer = .ok merged ∧
                  Fails errorClass (ofLayer merged))) := by
  have inSteps :
      load file overrides =
        optionalFileLayer file >>= fun fileValue =>
          overrideLayer overrides >>= fun layer =>
            mergedLayer fileValue layer >>= ofLayer := by
    simp [load, loadBy, readLayers]
  simp only [inSteps, fails_bind_iff, optionalFileLayer_eq_ok_iff,
    overrideLayer_eq_ok_iff]

variable {errorClass : ErrorClass} (unreported : errorClass.isReported = false)

include unreported

private theorem escapes_of_mergedLayer
    {fileValue layer : Value}
    (gives : FileGives file fileValue) (sound : flaws fileValue = [])
    (amounts : Amounts (.table []) overrides layer)
    (fails : Fails errorClass (mergedLayer fileValue layer)) :
    Escapes file overrides errorClass := by
  obtain ⟨overrideEntries, rfl⟩ := amounts.exists_table
  obtain ⟨rfl, clash | ⟨base, isBase, clash⟩⟩ :=
    (fails_mergedLayer_iff unreported gives.isContainer sound
      (amounts.flaws_eq_nil rfl)).mp fails
  · exact .fileClash gives sound amounts clash
  · exact .overrideClash gives sound amounts isBase clash

private theorem escapes_of_ofLayer
    {fileValue layer : Value} {merged : Layer}
    (gives : FileGives file fileValue) (sound : flaws fileValue = [])
    (amounts : Amounts (.table []) overrides layer)
    (isMerged : mergedLayer fileValue layer = .ok merged)
    (fails : Fails errorClass (ofLayer merged)) :
    Escapes file overrides errorClass := by
  rw [fails_ofLayer_iff unreported, fails_checkUnknown_iff unreported] at fails
  obtain ⟨rfl, someText, someOther⟩ := fails
  obtain ⟨overrideEntries, rfl⟩ := amounts.exists_table
  rcases gives.isContainer with ⟨fileEntries, rfl⟩ | ⟨items, rfl⟩
  · obtain ⟨first, firstUnknown, firstText⟩ :=
      (exists_unknownKey_iff isMerged true).mp someText
    obtain ⟨second, secondUnknown, secondOther⟩ :=
      (exists_unknownKey_iff isMerged false).mp someOther
    exact .order gives sound amounts isMerged firstUnknown secondUnknown firstText
      secondOther
  · simp only [mergedLayer, mergeValue, mapError_error] at isMerged
    cases isMerged

private theorem escapes_of_fails
    (fails : Fails errorClass (load file overrides)) :
    Escapes file overrides errorClass := by
  rcases fails_load_iff.mp fails with inFile | ⟨fileValue, ⟨gives, sound⟩, later⟩
  · rcases (fails_optionalFileLayer_iff unreported).mp inFile with
      ⟨rfl, spells⟩ | ⟨value, gives, isFirst, rfl⟩
    · exact .document spells
    · exact .reference gives isFirst
  rcases later with
    inOverrides | ⟨layer, amounts, inMerge | ⟨merged, isMerged, inLayer⟩⟩
  · obtain ⟨before, text, after, layer, split, earlier, escapes⟩ :=
      (fails_overrideLayer_iff unreported).mp inOverrides
    exact .override gives sound split earlier escapes
  · exact escapes_of_mergedLayer unreported gives sound amounts inMerge
  · exact escapes_of_ofLayer unreported gives sound amounts isMerged inLayer

private theorem fails_of_escapes
    (escapes : Escapes file overrides errorClass) :
    Fails errorClass (load file overrides) := by
  rw [fails_load_iff]
  cases escapes with
  | document spells =>
      exact .inl ((fails_optionalFileLayer_iff unreported).mpr (.inl ⟨rfl, spells⟩))
  | reference gives malformed =>
      exact .inl ((fails_optionalFileLayer_iff unreported).mpr
        (.inr ⟨_, gives, malformed, rfl⟩))
  | override gives sound split earlier escapes =>
      have fails :=
        (fails_overrideLayer_iff unreported).mpr
          ⟨_, _, _, _, split, earlier, escapes⟩
      exact .inr ⟨_, ⟨gives, sound⟩, .inl fails⟩
  | fileClash gives sound amounts clash =>
      obtain ⟨overrideEntries, rfl⟩ := amounts.exists_table
      have fails :=
        (fails_mergedLayer_iff unreported gives.isContainer sound
          (amounts.flaws_eq_nil rfl)).mpr ⟨rfl, .inl clash⟩
      exact .inr ⟨_, ⟨gives, sound⟩, .inr ⟨_, amounts, .inl fails⟩⟩
  | overrideClash gives sound amounts isBase clash =>
      obtain ⟨overrideEntries, rfl⟩ := amounts.exists_table
      have fails :=
        (fails_mergedLayer_iff unreported gives.isContainer sound
          (amounts.flaws_eq_nil rfl)).mpr ⟨rfl, .inr ⟨_, isBase, clash⟩⟩
      exact .inr ⟨_, ⟨gives, sound⟩, .inr ⟨_, amounts, .inl fails⟩⟩
  | order gives sound amounts isMerged firstUnknown secondUnknown firstText
      secondOther =>
      have someText :=
        (exists_unknownKey_iff isMerged true).mpr ⟨_, firstUnknown, firstText⟩
      have someOther :=
        (exists_unknownKey_iff isMerged false).mpr ⟨_, secondUnknown, secondOther⟩
      have fails :=
        (fails_checkUnknown_iff unreported).mpr ⟨rfl, someText, someOther⟩
      exact .inr ⟨_, ⟨gives, sound⟩, .inr ⟨_, amounts,
        .inr ⟨_, isMerged, (fails_ofLayer_iff unreported _).mpr fails⟩⟩⟩

end

private theorem isReported_eq_false_iff
    {error : LoadError} (covered : error.class? ≠ none) :
    error.isReported = false ↔
      ∃ errorClass, errorClass.isReported = false ∧
        error.class? = some errorClass := by
  unfold LoadError.isReported
  cases isClass : error.class? with
  | none => contradiction
  | some errorClass => simp

private theorem Barred.ne_system
    {errorClass : ErrorClass} {current : Option Value} {path : List String}
    (barred : Barred errorClass current path) :
    errorClass ≠ .system := by
  obtain ⟨error, -, rfl, -⟩ := barred.exists_storeAt
  cases error <;> simp [MergeError.class]

theorem Escapes.unreported
    {file : Option (String × Except FileError (List UInt8))}
    {overrides : List String} {errorClass : ErrorClass}
    (escapes : Escapes file overrides errorClass) :
    errorClass.isReported = false := by
  cases escapes with
  | override _ _ _ _ escapes =>
      cases escapes with
      | barred _ barred notValue =>
          simp [ErrorClass.isReported, barred.ne_system, notValue]
      | malformed | noKey | reference | clash => rfl
  | document | reference | fileClash | overrideClash | order => rfl

/-- The file and the overrides stop the command with an error of a class if and
only if they are rejected with such an error and it is not reported. -/
theorem escapes_iff
    {file : Option (String × Except FileError (List UInt8))}
    {overrides : List String} {errorClass : ErrorClass} :
    Escapes file overrides errorClass ↔
      Fails errorClass (load file overrides) ∧ errorClass.isReported = false := by
  constructor
  · intro escapes
    exact ⟨fails_of_escapes escapes.unreported escapes, escapes.unreported⟩
  · rintro ⟨fails, unreported⟩
    exact escapes_of_fails unreported fails

def flaw? (text : String) : Option Yaml.Flaw :=
  match Override.ofText text with
  | .error flaw => some flaw
  | .ok _ => none

theorem load_of_flaw?
    {text : String} {flaw : Yaml.Flaw}
    (flawed : flaw? text = some flaw) :
    load none [text] = .error (overrideError flaw) := by
  have fails : Override.ofText text = .error flaw := by
    unfold flaw? at flawed
    split at flawed
    · cases flawed
      assumption
    · cases flawed
  have unread : overrideLayer [text] = .error (overrideError flaw) := by
    rw [overrideLayer, List.foldlM_cons, storeOverride, fails]
    rfl
  simp only [load, loadBy, readLayers, unread]
  rfl

end Config

namespace Scripted.World

open CommandLine Config

end Scripted.World

end Chip8
