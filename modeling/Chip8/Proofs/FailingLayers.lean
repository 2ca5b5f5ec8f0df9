import Chip8.Proofs.FlawlessLayers

/-!
# Layers that cannot be read

The command reports errors of two classes and breaks off at the others.  This
module says of the file and of the overrides which of the latter their layers
end with, and what the layers are otherwise.
-/

namespace Chip8

/-- A fold fails at the first item whose step fails. -/
theorem foldlM_eq_error_iff
    {α β ε : Type} {step : β → α → Except ε β} {start : β} {items : List α}
    {error : ε} :
    items.foldlM step start = .error error ↔
      ∃ before item after value,
        items = before ++ item :: after ∧
        before.foldlM step start = .ok value ∧
        step value item = .error error := by
  constructor
  · intro fails
    induction items generalizing start with
    | nil => cases fails
    | cons first rest inductionHypothesis =>
        rw [List.foldlM_cons] at fails
        cases stepped : step start first with
        | error reason =>
            rw [stepped] at fails
            cases fails
            exact ⟨[], first, rest, start, rfl, rfl, stepped⟩
        | ok next =>
            rw [stepped] at fails
            obtain ⟨before, item, after, value, split, earlier, last⟩ :=
              inductionHypothesis fails
            refine ⟨first :: before, item, after, value, ?_, ?_, last⟩
            · rw [split, List.cons_append]
            · rw [List.foldlM_cons, stepped]
              exact earlier
  · intro splits
    obtain ⟨before, item, after, value, split, earlier, last⟩ := splits
    rw [split, List.foldlM_append, earlier]
    simp only [bind, Except.bind, List.foldlM_cons, last]

namespace Config

/-! ## Errors of a class -/

/-- The computation ends with an error of the class. -/
def Fails {α : Type} (errorClass : ErrorClass) (computation : Except LoadError α) :
    Prop :=
  ∃ error, computation = .error error ∧ error.class? = some errorClass

section

variable {α β : Type} {errorClass : ErrorClass}

@[simp]
theorem not_fails_ok
    (value : α) :
    ¬ Fails errorClass (.ok value) := by
  rintro ⟨error, isError, -⟩
  cases isError

@[simp]
theorem fails_error_iff
    {error : LoadError} :
    Fails errorClass (.error error : Except LoadError α) ↔
      error.class? = some errorClass := by
  simp [Fails]

theorem fails_bind_iff
    {computation : Except LoadError α} {next : α → Except LoadError β} :
    Fails errorClass (computation >>= next) ↔
      Fails errorClass computation ∨
        ∃ value, computation = .ok value ∧ Fails errorClass (next value) := by
  cases computation with
  | error error => simp [Fails, bind, Except.bind]
  | ok value => simp [Fails, bind, Except.bind]

theorem fails_mapError_iff
    {ε : Type} {computation : Except ε α} {report : ε → LoadError} :
    Fails errorClass (computation.mapError report) ↔
      ∃ reason, computation = .error reason ∧
        (report reason).class? = some errorClass := by
  cases computation with
  | error reason => simp
  | ok value => simp

end

theorem ne_of_unreported
    {errorClass : ErrorClass} (unreported : errorClass.isReported = false) :
    errorClass ≠ .value ∧ errorClass ≠ .system := by
  constructor
  · rintro rfl
    cases unreported
  · rintro rfl
    cases unreported

/-- Of the flaws of a value only a malformed reference goes without a report. -/
theorem exists_contentError?_iff
    {value : Value} {errorClass : ErrorClass}
    (unreported : errorClass.isReported = false) :
    (∃ error, contentError? value = some error ∧
        error.class? = some errorClass) ↔
      (flaws value).head? = some .reference ∧ errorClass = .grammar := by
  rw [← Option.map_eq_some_iff, class?_contentError? value,
    Option.map_eq_some_iff]
  constructor
  · rintro ⟨flaw, isFirst, hasClass⟩
    cases flaw with
    | key =>
        cases hasClass
        cases unreported
    | reference =>
        cases hasClass
        exact ⟨isFirst, rfl⟩
    | uncovered => cases hasClass
  · rintro ⟨isFirst, rfl⟩
    exact ⟨_, isFirst, rfl⟩

/-! ## The file -/

/-- The table or list that a value stands for where a table is expected. -/
inductive Gives : Value → Value → Prop
  | nothing : Gives .null (.table [])
  | table (entries : Layer) : Gives (.table entries) (.table entries)
  | list (items : List Value) : Gives (.list items) (.list items)

/-- What a document contributes.  A text is read as a document once more, and a
text that stays one is a key without a value. -/
inductive DocumentGives : Value → Value → Prop
  | plain {document value : Value} (gives : Gives document value) :
      DocumentGives document value
  | again {text : String} {inner value : Value}
      (spelled : Yaml.read text = .ok inner) (gives : Gives inner value) :
      DocumentGives (.text text) value
  | key {text key : String} (spelled : Yaml.read text = .ok (.text key)) :
      DocumentGives (.text text) (.table [(.text key, .null)])

/-- What a file contributes that is there and holds a document. -/
inductive FileGives :
    Option (String × Except FileError (List UInt8)) → Value → Prop
  | absent : FileGives none (.table [])
  | present {bytes : List UInt8} {text : String} {document value : Value}
      (decoded : Text.decode bytes = .ok text)
      (isDocument : Yaml.read text = .ok document)
      (gives : DocumentGives document value) (path : String) :
      FileGives (some (path, .ok bytes)) value

def isNumeric : Value → Bool
  | .bool _ | .int _ | .real _ => true
  | _ => false

/-- The document of the file is a text that spells a number or a truth value. -/
def SpellsNumber (file : Option (String × Except FileError (List UInt8))) : Prop :=
  ∃ path bytes text inner number,
    file = some (path, .ok bytes) ∧ Text.decode bytes = .ok text ∧
    Yaml.read text = .ok (.text inner) ∧ Yaml.read inner = .ok number ∧
    isNumeric number = true

theorem documentValue_eq_ok_iff
    {path : String} {document value : Value} :
    documentValue path document = .ok value ↔ DocumentGives document value := by
  constructor
  · intro isValue
    unfold documentValue at isValue
    split at isValue
    next =>
      cases isValue
      exact .plain .nothing
    next entries =>
      cases isValue
      exact .plain (.table entries)
    next items =>
      cases isValue
      exact .plain (.list items)
    next text =>
      split at isValue
      next => cases isValue
      next spelled =>
        cases isValue
        exact .again spelled .nothing
      next spelled =>
        cases isValue
        exact .key spelled
      next entries spelled =>
        cases isValue
        exact .again spelled (.table entries)
      next items spelled =>
        cases isValue
        exact .again spelled (.list items)
      next => cases isValue
    next => cases isValue
  · intro gives
    cases gives with
    | plain gives => cases gives <;> rfl
    | again spelled gives => cases gives <;> simp [documentValue, spelled]
    | key spelled => simp [documentValue, spelled]

theorem not_fails_documentError
    {errorClass : ErrorClass} (unreported : errorClass.isReported = false)
    (path : String) (flaw : Yaml.Flaw) :
    (documentError path flaw).class? ≠ some errorClass := by
  intro hasClass
  cases flaw <;> cases hasClass <;> cases unreported

private theorem fails_documentValue_iff
    {errorClass : ErrorClass} (unreported : errorClass.isReported = false)
    {path : String} {document : Value} :
    Fails errorClass (documentValue path document) ↔
      errorClass = .assertion ∧
        ∃ text number, document = .text text ∧ Yaml.read text = .ok number ∧
          isNumeric number = true := by
  have notSystem := (ne_of_unreported unreported).2
  cases document with
  | text text =>
      cases spelled : Yaml.read text with
      | error flaw =>
          simp [documentValue, spelled,
            not_fails_documentError unreported path flaw]
      | ok value =>
          cases value with
          | bool value | int value | real value =>
              simp only [documentValue, spelled, fails_error_iff,
                LoadError.class?, Option.some.injEq]
              constructor
              · rintro rfl
                exact ⟨rfl, text, _, rfl, spelled, rfl⟩
              · rintro ⟨rfl, -⟩
                rfl
          | null | text _ | list _ | table _ =>
              simp [documentValue, spelled, isNumeric]
  | null | table entries | list items => simp [documentValue]
  | bool value | int value | real value =>
      simp [documentValue, LoadError.class?, notSystem.symm]

theorem checked_eq_ok_iff
    {value result : Value} :
    checked value = .ok result ↔ flaws value = [] ∧ value = result := by
  rw [← contentError?_eq_none_iff]
  unfold checked
  split <;> simp_all

private theorem fails_checked_iff
    {errorClass : ErrorClass} (unreported : errorClass.isReported = false)
    {value : Value} :
    Fails errorClass (checked value) ↔
      (flaws value).head? = some .reference ∧ errorClass = .grammar := by
  rw [← exists_contentError?_iff unreported]
  unfold checked
  split
  next error isError => simp [isError, LoadError.class?]
  next sound => simp [sound]

/-- The file becomes a layer exactly if it holds a document without flaws. -/
theorem optionalFileLayer_eq_ok_iff
    {file : Option (String × Except FileError (List UInt8))} {value : Value} :
    optionalFileLayer file = .ok value ↔ FileGives file value ∧ flaws value = [] := by
  constructor
  · intro isValue
    rcases file with _ | ⟨path, content⟩
    · cases isValue
      exact ⟨.absent, rfl⟩
    unfold optionalFileLayer fileLayer at isValue
    obtain ⟨bytes, isContent, isValue⟩ := bind_eq_ok_iff.mp isValue
    obtain ⟨text, decoded, isValue⟩ := bind_eq_ok_iff.mp isValue
    obtain ⟨document, isDocument, isValue⟩ := bind_eq_ok_iff.mp isValue
    obtain ⟨said, gives, isValue⟩ := bind_eq_ok_iff.mp isValue
    rw [mapError_eq_ok_iff] at isContent decoded isDocument
    rw [documentValue_eq_ok_iff] at gives
    obtain ⟨sound, rfl⟩ := checked_eq_ok_iff.mp isValue
    subst isContent
    exact ⟨.present decoded isDocument gives path, sound⟩
  · rintro ⟨gives, sound⟩
    cases gives with
    | absent => rfl
    | present decoded isDocument gives path =>
        simp only [optionalFileLayer, fileLayer, decoded, isDocument, mapError_ok,
          documentValue_eq_ok_iff.mpr gives, bind, Except.bind]
        exact checked_eq_ok_iff.mpr ⟨sound, rfl⟩

/-- The error of a file escapes exactly if the document spells a number or its
first flaw is a malformed reference. -/
theorem fails_optionalFileLayer_iff
    {errorClass : ErrorClass} (unreported : errorClass.isReported = false)
    {file : Option (String × Except FileError (List UInt8))} :
    Fails errorClass (optionalFileLayer file) ↔
      (errorClass = .assertion ∧ SpellsNumber file) ∨
        ∃ value, FileGives file value ∧ (flaws value).head? = some .reference ∧
          errorClass = .grammar := by
  obtain ⟨notValue, notSystem⟩ := ne_of_unreported unreported
  have unreadable : ∀ error, (LoadError.file error).class? ≠ some errorClass := by
    simp [LoadError.class?, notSystem.symm]
  have undecodable :
      ∀ error, (LoadError.encoding error).class? ≠ some errorClass := by
    simp [LoadError.class?, notValue.symm]
  rcases file with _ | ⟨path, content⟩
  · constructor
    · intro fails
      cases not_fails_ok _ fails
    · rintro (⟨-, _, _, _, _, _, isFile, -⟩ | ⟨value, gives, isFirst, -⟩)
      · cases isFile
      · cases gives
        cases isFirst
  unfold optionalFileLayer fileLayer
  simp only [fails_bind_iff, fails_mapError_iff, mapError_eq_ok_iff,
    fails_documentValue_iff unreported, fails_checked_iff unreported,
    documentValue_eq_ok_iff, not_fails_documentError unreported, unreadable,
    undecodable, and_false, exists_false, false_or]
  constructor
  · rintro ⟨bytes, rfl, text, decoded, document, isDocument, inner⟩
    rcases inner with ⟨isAssertion, spelled⟩ | ⟨value, gives, isFirst⟩
    · obtain ⟨inner, number, rfl, isNumber, numeric⟩ := spelled
      exact .inl ⟨isAssertion, path, bytes, text, inner, number, rfl, decoded,
        isDocument, isNumber, numeric⟩
    · exact .inr ⟨value, .present decoded isDocument gives path, isFirst⟩
  · rintro (⟨isAssertion, spells⟩ | ⟨value, gives, isFirst⟩)
    · obtain ⟨_, bytes, text, inner, number, isFile, decoded, isDocument, isNumber,
        numeric⟩ := spells
      cases isFile
      exact ⟨bytes, rfl, text, decoded, _, isDocument,
        .inl ⟨isAssertion, inner, number, rfl, isNumber, numeric⟩⟩
    · cases gives with
      | present decoded isDocument gives =>
          exact ⟨_, rfl, _, decoded, _, isDocument, .inr ⟨value, gives, isFirst⟩⟩

/-! ## The overrides -/

def isNumeralFlaw : Yaml.Flaw → Bool
  | .integer _ | .digits _ | .real _ => true
  | _ => false

/-- The override stops the command when it is stored in a layer. -/
inductive Override.Escapes (layer : Value) (text : String) : ErrorClass → Prop
  /-- It is malformed, and not just because of a number. -/
  | malformed {flaw : Yaml.Flaw}
      (flawed : ofText text = .error flaw)
      (noNumeral : isNumeralFlaw flaw = false)
      (covered : flaw ≠ .uncovered) :
      Escapes layer text .document
  /-- There is no key in front of its value. -/
  | noKey {override : Override}
      (isOverride : ofText text = .ok override)
      (keyless : override.path = []) :
      Escapes layer text .index
  /-- The way of its key path is barred, and not just because the last part is no
  number. -/
  | barred {override : Override} {errorClass : ErrorClass}
      (isOverride : ofText text = .ok override)
      (barred : Barred errorClass (some layer) override.path)
      (unreported : errorClass ≠ .value) :
      Escapes layer text errorClass
  /-- The first flaw of its value is a malformed reference. -/
  | reference {override : Override} {target : Option Value}
      (isOverride : ofText text = .ok override)
      (leads : Leads (some layer) override.path target)
      (malformed : (flaws override.value).head? = some .reference) :
      Escapes layer text .grammar
  /-- Its value clashes with the one in its place. -/
  | clash {override : Override} {target : Value}
      (isOverride : ofText text = .ok override)
      (leads : Leads (some layer) override.path (some target))
      (sound : flaws override.value = [])
      (clash : Clash target override.value) :
      Escapes layer text .kind

theorem class?_overrideError_eq_some_iff
    {errorClass : ErrorClass} (unreported : errorClass.isReported = false)
    {flaw : Yaml.Flaw} :
    (overrideError flaw).class? = some errorClass ↔
      errorClass = .document ∧ isNumeralFlaw flaw = false ∧ flaw ≠ .uncovered := by
  have notValue := (ne_of_unreported unreported).1
  cases flaw <;>
    simp [overrideError, LoadError.class?, isNumeralFlaw, notValue, eq_comm]

theorem Override.contentError?_eq_none_iff
    {override : Override} :
    override.contentError? = none ↔ flaws override.value = [] := by
  rw [Override.contentError?, Option.map_eq_none_iff,
    Config.contentError?_eq_none_iff]

private theorem ContentError.class?_foldr_behind
    (path : List String) (error : ContentError) :
    (path.foldr (fun part error => error.behind (.key part)) error).class? =
      error.class? := by
  induction path with
  | nil => rfl
  | cons part rest inductionHypothesis =>
      rw [List.foldr_cons, class?_behind, inductionHypothesis]

theorem Override.exists_contentError?_iff
    {errorClass : ErrorClass} (unreported : errorClass.isReported = false)
    {override : Override} :
    (∃ error, override.contentError? = some error ∧
        error.class? = some errorClass) ↔
      (flaws override.value).head? = some .reference ∧ errorClass = .grammar := by
  rw [← Config.exists_contentError?_iff unreported, ← Option.map_eq_some_iff,
    ← Option.map_eq_some_iff, Override.contentError?, Option.map_map]
  have sameClass :
      (ContentError.class? ∘ fun error =>
        override.path.foldr (fun part error => error.behind (.key part)) error) =
        ContentError.class? := by
    funext error
    exact ContentError.class?_foldr_behind override.path error
  rw [sameClass]

section

variable {layer stored : Value} {text : String} {override : Override}
  (isOverride : Override.ofText text = .ok override)

include isOverride

theorem storeOverride_of_keyless
    (keyless : override.path = []) :
    storeOverride layer text = .error (.merge .noKey) := by
  simp [storeOverride, isOverride, keyless, bind, Except.bind]

/-- Where the key path is barred, the value of the override is not looked at. -/
theorem storeOverride_of_barred
    {errorClass : ErrorClass}
    (barred : Barred errorClass (some layer) override.path) :
    ∃ error : MergeError, error.class = errorClass ∧
      storeOverride layer text = .error (.merge error) := by
  obtain ⟨error, notContainers, isClass, fails⟩ := barred.exists_storeAt
  have keyed : override.path.isEmpty = false := by
    cases override with
    | mk path value => cases barred <;> rfl
  refine ⟨error, isClass, ?_⟩
  simp only [storeOverride, isOverride, keyed, fails, mapError_ok, bind, Except.bind,
    Bool.false_eq_true, if_false]
  cases error <;> first | rfl | cases notContainers rfl

/-- Where the key path leads, the value is checked before it is assigned. -/
theorem storeOverride_of_leads
    {target : Option Value}
    (leads : Leads (some layer) override.path target) :
    ∃ rebuild : Value → Value,
      storeOverride layer text =
        match override.contentError? with
        | some error => .error (.content error)
        | none => ((assign target override.value).map rebuild).mapError .merge := by
  obtain ⟨rebuild, stores⟩ := leads.exists_storeAt
  have keyed : override.path.isEmpty = false := by
    cases override with
    | mk path value => cases leads <;> rfl
  refine ⟨rebuild, ?_⟩
  simp only [storeOverride, isOverride, keyed, stores, mapError_ok, bind, Except.bind,
    Bool.false_eq_true, if_false]
  cases isAssigned : assign target override.value with
  | error error =>
      obtain ⟨rfl, -⟩ := assign_eq_error_iff.mp isAssigned
      cases override.contentError? <;> rfl
  | ok both => cases override.contentError? <;> rfl

end

/-- Storing an override stops the command only as described. -/
theorem fails_storeOverride_iff
    {errorClass : ErrorClass} (unreported : errorClass.isReported = false)
    {layer : Value} {text : String} :
    Fails errorClass (storeOverride layer text) ↔
      Override.Escapes layer text errorClass := by
  constructor
  · intro fails
    cases isOverride : Override.ofText text with
    | error flaw =>
        simp only [storeOverride, isOverride, mapError_error, bind, Except.bind,
          fails_error_iff, class?_overrideError_eq_some_iff unreported] at fails
        obtain ⟨rfl, noNumeral, covered⟩ := fails
        exact .malformed isOverride noNumeral covered
    | ok override =>
        cases isPath : override.path with
        | nil =>
            rw [storeOverride_of_keyless isOverride isPath, fails_error_iff] at fails
            cases fails
            exact .noKey isOverride isPath
        | cons part rest =>
            rcases leads_or_barred (some layer) part rest with
              ⟨target, leads⟩ | ⟨barredClass, barred⟩
            · rw [← isPath] at leads
              obtain ⟨rebuild, isStored⟩ := storeOverride_of_leads isOverride leads
              rw [isStored] at fails
              cases isError : override.contentError? with
              | some error =>
                  rw [isError] at fails
                  obtain ⟨isFirst, rfl⟩ :=
                    (Override.exists_contentError?_iff unreported).mp
                      ⟨error, isError, fails_error_iff.mp fails⟩
                  exact .reference isOverride leads isFirst
              | none =>
                  simp only [isError, fails_mapError_iff, map_eq_error_iff,
                    assign_eq_error_iff] at fails
                  obtain ⟨_, ⟨rfl, target, rfl, clash⟩, isClass⟩ := fails
                  cases isClass
                  exact .clash isOverride leads
                    (Override.contentError?_eq_none_iff.mp isError) clash
            · rw [← isPath] at barred
              obtain ⟨error, rfl, isError⟩ := storeOverride_of_barred isOverride barred
              rw [isError, fails_error_iff] at fails
              cases fails
              exact .barred isOverride barred (ne_of_unreported unreported).1
  · intro escapes
    cases escapes with
    | malformed flawed noNumeral covered =>
        simp only [storeOverride, flawed, mapError_error, bind, Except.bind,
          fails_error_iff, class?_overrideError_eq_some_iff unreported]
        exact ⟨trivial, noNumeral, covered⟩
    | noKey isOverride keyless =>
        rw [storeOverride_of_keyless isOverride keyless, fails_error_iff]
        rfl
    | barred isOverride barred _ =>
        obtain ⟨error, rfl, isError⟩ := storeOverride_of_barred isOverride barred
        rw [isError, fails_error_iff]
        rfl
    | reference isOverride leads malformed =>
        obtain ⟨rebuild, isStored⟩ := storeOverride_of_leads isOverride leads
        obtain ⟨error, isError, isClass⟩ :=
          (Override.exists_contentError?_iff unreported).mpr ⟨malformed, rfl⟩
        rw [isStored, isError, fails_error_iff]
        exact isClass
    | clash isOverride leads sound clash =>
        obtain ⟨rebuild, isStored⟩ := storeOverride_of_leads isOverride leads
        have fails := assign_eq_error_iff.mpr ⟨rfl, _, rfl, clash⟩
        rw [isStored, Override.contentError?_eq_none_iff.mpr sound, fails]
        exact ⟨_, rfl, rfl⟩

/-- The layer that overrides make of another one, stored one after the other. -/
inductive Amounts : Value → List String → Value → Prop
  | nothing (layer : Value) : Amounts layer [] layer
  | store {layer stored final : Value} {text : String} {rest : List String}
      {override : Override}
      (isOverride : Override.ofText text = .ok override)
      (keyed : override.path ≠ [])
      (sound : flaws override.value = [])
      (isStored : storeAt (some layer) override.path override.value = .ok stored)
      (later : Amounts stored rest final) :
      Amounts layer (text :: rest) final

/-- An override is stored if it can be read, has a key, a value without flaws
and a place that takes it. -/
theorem storeOverride_eq_ok_iff
    {layer stored : Value} {text : String} :
    storeOverride layer text = .ok stored ↔
      ∃ override, Override.ofText text = .ok override ∧ override.path ≠ [] ∧
        flaws override.value = [] ∧
        storeAt (some layer) override.path override.value = .ok stored := by
  unfold storeOverride
  rw [bind_eq_ok_iff]
  refine exists_congr fun override => ?_
  rw [mapError_eq_ok_iff]
  refine and_congr_right fun _ => ?_
  cases isPath : override.path with
  | nil => simp
  | cons part rest =>
      simp only [List.isEmpty_cons, Bool.false_eq_true, if_false,
        ← Override.contentError?_eq_none_iff]
      cases storeAt (some layer) (part :: rest) override.value with
      | error error =>
          cases override.contentError? <;> cases error <;> simp
      | ok both => cases override.contentError? <;> simp

private theorem foldlM_storeOverride_eq_ok_iff
    {layer final : Value} {texts : List String} :
    texts.foldlM storeOverride layer = .ok final ↔ Amounts layer texts final := by
  induction texts generalizing layer with
  | nil =>
      constructor
      · intro isFinal
        cases isFinal
        exact .nothing _
      · intro amounts
        cases amounts
        rfl
  | cons text rest inductionHypothesis =>
      rw [List.foldlM_cons, bind_eq_ok_iff]
      constructor
      · rintro ⟨stored, isStep, later⟩
        obtain ⟨override, isOverride, keyed, sound, isStored⟩ :=
          storeOverride_eq_ok_iff.mp isStep
        exact .store isOverride keyed sound isStored (inductionHypothesis.mp later)
      · intro amounts
        cases amounts with
        | store isOverride keyed sound isStored later =>
            exact ⟨_, storeOverride_eq_ok_iff.mpr
              ⟨_, isOverride, keyed, sound, isStored⟩, inductionHypothesis.mpr later⟩

theorem overrideLayer_eq_ok_iff
    {texts : List String} {layer : Value} :
    overrideLayer texts = .ok layer ↔ Amounts (.table []) texts layer :=
  foldlM_storeOverride_eq_ok_iff

/-- The error of the overrides escapes exactly if it does so at one of them, in
the layer that those before it amount to. -/
theorem fails_overrideLayer_iff
    {errorClass : ErrorClass} (unreported : errorClass.isReported = false)
    {overrides : List String} :
    Fails errorClass (overrideLayer overrides) ↔
      ∃ before text after layer,
        overrides = before ++ text :: after ∧ Amounts (.table []) before layer ∧
          Override.Escapes layer text errorClass := by
  simp only [← fails_storeOverride_iff unreported, ← overrideLayer_eq_ok_iff, Fails,
    overrideLayer, foldlM_eq_error_iff]
  constructor
  · rintro ⟨error, ⟨before, text, after, layer, split, earlier, fails⟩, isClass⟩
    exact ⟨before, text, after, layer, split, earlier, error, fails, isClass⟩
  · rintro ⟨before, text, after, layer, split, earlier, error, fails, isClass⟩
    exact ⟨error, ⟨before, text, after, layer, split, earlier, fails⟩, isClass⟩

private theorem exists_table_of_storeAt
    {entries : Layer} {path : List String} {value stored : Value}
    (keyed : path ≠ [])
    (isStored : storeAt (some (.table entries)) path value = .ok stored) :
    ∃ more, stored = .table more := by
  cases path with
  | nil => contradiction
  | cons part rest =>
      rw [storeAt] at isStored
      split at isStored
      · cases isStored
      obtain ⟨inner, -, isTable⟩ := bind_eq_ok_iff.mp isStored
      cases isTable
      exact ⟨_, rfl⟩

theorem Amounts.exists_table
    {entries : Layer} {texts : List String} {final : Value}
    (amounts : Amounts (.table entries) texts final) :
    ∃ more, final = .table more := by
  generalize isStart : Value.table entries = start at amounts
  induction amounts generalizing entries with
  | nothing => exact ⟨entries, isStart.symm⟩
  | store _ keyed _ isStored _ inductionHypothesis =>
      subst isStart
      obtain ⟨more, rfl⟩ := exists_table_of_storeAt keyed isStored
      exact inductionHypothesis rfl

theorem Amounts.flaws_eq_nil
    {layer final : Value} {texts : List String}
    (amounts : Amounts layer texts final) (soundLayer : flaws layer = []) :
    flaws final = [] := by
  induction amounts with
  | nothing => exact soundLayer
  | store _ _ sound isStored _ inductionHypothesis =>
      apply inductionHypothesis
      refine flaws_storeAt ?_ sound isStored
      rintro present ⟨⟩
      exact soundLayer

end Config

end Chip8
