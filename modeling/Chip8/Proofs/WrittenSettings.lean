import Chip8.Proofs.DecimalScalars
import Chip8.Proofs.LayeredSettings
import Chip8.Proofs.RejectedSettings
import Chip8.Proofs.Startup
import Chip8.Proofs.WordLines

/-!
# Settings that are written out

Settings can be written out as overrides or as the lines of a file.  Loading them
gives the same settings again, in whatever order they are written, unless an
integer among them has too many digits; then both are refused for that reason.
-/

namespace Chip8

/-! ## Bytes of a text -/

private theorem Text.decodeFrom_of_ascii
    {chars : List Char}
    (ascii : ∀ char ∈ chars, char.toNat < 0x80)
    (position : Nat) :
    decodeFrom position none (chars.flatMap String.utf8EncodeChar) = .ok chars := by
  induction chars generalizing position with
  | nil => rfl
  | cons first rest inductionHypothesis =>
      obtain ⟨firstAscii, others⟩ := List.forall_mem_cons.mp ascii
      have encoded : String.utf8EncodeChar first = [UInt8.ofNat first.toNat] := by
        have small : first.val.toNat ≤ 0x7F := Nat.le_of_lt_succ firstAscii
        rw [String.utf8EncodeChar, if_pos small, Char.toNat]
      have code : (UInt8.ofNat first.toNat).toNat = first.toNat := by
        rw [UInt8.toNat_ofNat']
        omega
      have single : (UInt8.ofNat first.toNat).toNat < 0x80 := by
        rw [code]
        exact firstAscii
      rw [List.flatMap_cons, encoded, List.singleton_append]
      change (if (UInt8.ofNat first.toNat).toNat < 0x80 then _ else _) = _
      rw [if_pos single, inductionHypothesis others, code, Char.ofNat_toNat]
      rfl

private theorem Text.decode_of_ascii
    {chars : List Char}
    (ascii : ∀ char ∈ chars, char.toNat < 0x80) :
    decode (String.ofList chars).toUTF8.data.toList = .ok (.ofList chars) := by
  have bytes :
      (String.ofList chars).toUTF8.data.toList = chars.flatMap String.utf8EncodeChar := by
    simp [List.utf8Encode]
  rw [decode, bytes, decodeFrom_of_ascii ascii]
  rfl

namespace Config

/-! ## Spellings -/

def spelling : Value → String
  | .null => "null"
  | .bool value => if value then "true" else "false"
  | value => value.display

def overrideText (entry : String × Value) : String :=
  entry.1 ++ "=" ++ spelling entry.2

def line (entry : String × Value) : String :=
  entry.1 ++ ": " ++ spelling entry.2 ++ "\n"

def fileText (entries : List (String × Value)) : String :=
  String.join (entries.map line)

def digitCount : Value → Nat
  | .int number => (Numeral.decimal number.natAbs).length
  | _ => 0

/-- Whether an integer has more digits than are read. -/
def isTooLong (value : Value) : Bool := Text.longestInteger < digitCount value

/-- What the spelling of a value is read as. -/
def reread (value : Value) : Except Yaml.Flaw Value :=
  if isTooLong value then .error (.digits (digitCount value)) else .ok value

/-- The spelling of the value is a word, and it is read as the value. -/
structure IsWritten (value : Value) : Prop where
  word : Yaml.IsWord (spelling value).toList
  read : Yaml.read (spelling value) = reread value
  scalar : IsScalar value

/-- The decimal text of an integer is a word. -/
theorem isWord_text
    (number : Int) :
    Yaml.IsWord (Numeral.text number).toList := by
  have letters :
      ∀ char ∈ Numeral.decimal number.natAbs, Yaml.isWordLetter char = true := by
    intro char belongs
    have isDigit := Numeral.isDigit_of_mem_decimal belongs
    simp [Yaml.isWordLetter, Char.isAlphanum, isDigit]
  have nonempty := Numeral.decimal_ne_nil number.natAbs
  rw [Numeral.text, String.toList_ofList, Numeral.sign]
  by_cases negative : number < 0
  · rw [if_pos negative]
    exact Yaml.isWord_of_sign nonempty letters
  · rw [if_neg negative]
    exact Yaml.isWord_of_letters nonempty letters

theorem isWritten_int
    (number : Int) :
    IsWritten (.int number) where
  word := isWord_text number
  read := by
    have read := Yaml.read_word (isWord_text number)
    rw [String.ofList_toList, Yaml.Node.value, Yaml.Scalar.ofPlain_integer,
      Yaml.Scalar.limited] at read
    by_cases long : Text.longestInteger < (Numeral.decimal number.natAbs).length
    · rw [if_pos long] at read
      simpa [spelling, Value.display, Value.literal, reread, isTooLong, digitCount, long]
        using read
    · rw [if_neg long] at read
      simpa [spelling, Value.display, Value.literal, reread, isTooLong, digitCount, long]
        using read
  scalar := ⟨rfl, rfl⟩

/-- Whether the spelling of a value has letters only and is read as the value. -/
def isSpelled (value : Value) : Bool :=
  !(spelling value).isEmpty && (spelling value).toList.all Yaml.isWordLetter &&
    spells (spelling value) value && isPlain value && !isMissing value &&
    digitCount value = 0

theorem isWritten_of_isSpelled
    {value : Value}
    (spelled : isSpelled value = true) :
    IsWritten value := by
  simp only [isSpelled, Bool.and_eq_true, Bool.not_eq_true', decide_eq_true_eq,
    List.all_eq_true, and_assoc] at spelled
  obtain ⟨nonempty, letters, read, plain, present, noDigits⟩ := spelled
  refine ⟨Yaml.isWord_of_letters ?_ letters, ?_, plain, present⟩
  · simpa using nonempty
  · rw [read_of_spells read]
    simp [reread, isTooLong, noDigits]

/-- Settings in their range can be written down. -/
theorem InRange.isWritten
    {config : Config}
    (inRange : config.InRange) :
    ∀ entry ∈ config.entries, IsWritten entry.2 := by
  have schemes : ∀ name ∈ Palette.names, isSpelled (.text name) = true := by
    decide +kernel
  have levels : ∀ name ∈ LogLevel.names, isSpelled (.text name) = true := by
    decide +kernel
  obtain ⟨palette, knownScheme⟩ := Option.isSome_iff_exists.mp inRange.colorScheme
  obtain ⟨level, knownLevel⟩ := Option.isSome_iff_exists.mp inRange.logLevel
  have scheme := isWritten_of_isSpelled (schemes _ (mem_of_lookup knownScheme))
  have level := isWritten_of_isSpelled (levels _ (mem_of_lookup knownLevel))
  have limit : IsWritten ((config.stackLimit.map Value.int).getD .null) := by
    cases config.stackLimit with
    | none => exact isWritten_of_isSpelled (by decide +kernel)
    | some bound => exact isWritten_int bound
  have halt : IsWritten (.bool config.haltOnFault) := by
    cases config.haltOnFault with
    | false => exact isWritten_of_isSpelled (by decide +kernel)
    | true => exact isWritten_of_isSpelled (by decide +kernel)
  simp only [entries, List.forall_mem_cons]
  exact ⟨isWritten_int _, isWritten_int _, isWritten_int _, scheme, isWritten_int _,
    limit, halt, level, isWritten_int _, List.forall_mem_nil _⟩

/-! ## Effective values -/

@[simp]
theorem map_fst_entries
    (config : Config) :
    config.entries.map Prod.fst = names :=
  rfl

theorem nodup_names : names.Nodup := by decide

theorem settingValue_layer
    (config : Config) (name : String) :
    settingValue config.layer name = (config.entries.lookup name).getD .null := by
  rw [settingValue, ← find?_map_assignedEntry]
  rfl

theorem lookup_eq_none_iff_not_mem
    {table : List (String × Value)} {name : String} :
    table.lookup name = none ↔ name ∉ table.map Prod.fst := by
  rw [List.lookup_eq_none_iff]
  grind

section

variable {config : Config} {written : List (String × Value)}

/-- The value that is written for a setting counts, whatever the default. -/
theorem lookup_getD_default
    (ordered : written.Perm config.entries)
    (name : String) :
    (written.reverse.lookup name).getD (settingValue defaults name) =
      settingValue config.layer name := by
  have nodup : (config.entries.map Prod.fst).Nodup := nodup_names
  have same : written.reverse.lookup name = config.entries.lookup name := by
    rw [lookup_eq_head?_filter, lookup_eq_head?_filter,
      filter_of_perm ((List.reverse_perm written).trans ordered) nodup]
  rw [same, settingValue_layer]
  cases found : config.entries.lookup name with
  | some value => rfl
  | none =>
      -- all settings have the same names, so there is no default either
      rw [lookup_eq_none_iff_not_mem, map_fst_entries] at found
      have noDefault : (entries {}).lookup name = none := by
        rwa [lookup_eq_none_iff_not_mem, map_fst_entries]
      have default := settingValue_layer {} name
      rw [noDefault] at default
      exact default

/-- Some settings with their names, each of them once, and with values that are
written as words. -/
structure Writable (written : List (String × Value)) : Prop where
  nonempty : written ≠ []
  known : ∀ entry ∈ written, entry.1 ∈ names
  nodup : (written.map Prod.fst).Nodup
  isWritten : ∀ entry ∈ written, IsWritten entry.2

/-- In any order, settings in their range can be written as lines. -/
theorem InRange.writable
    (inRange : config.InRange)
    (ordered : written.Perm config.entries) :
    Writable written where
  nonempty := by
    rintro rfl
    simpa [entries] using ordered.length_eq
  known := by
    intro entry listed
    rw [← map_fst_entries config]
    exact List.mem_map_of_mem (ordered.mem_iff.mp listed)
  nodup := (ordered.map Prod.fst).nodup_iff.mpr nodup_names
  isWritten := fun entry listed => inRange.isWritten entry (ordered.mem_iff.mp listed)

/-- Layers in which every setting has the value of some settings give these
settings. -/
theorem ofLayer_layered_of_effective
    (inRange : config.InRange)
    {fileEntries : Layer} {assigned : List (String × Value)}
    (knownFile : ∀ entry ∈ fileEntries, IsSetting entry.1)
    (knownNames : ∀ assignment ∈ assigned, assignment.1 ∈ names)
    (distinct : Value.DistinctTexts fileEntries)
    (values : ∀ name,
      effective fileEntries assigned name = settingValue config.layer name) :
    ofLayer (layered fileEntries assigned) = .ok config := by
  have known :
      checkUnknown (unknownKeys (layered fileEntries assigned)) = .ok () :=
    checkUnknown_eq_ok_iff.mpr
      ((unknownKeys_layered_eq_nil_iff fileEntries assigned).mpr
        ⟨knownFile, knownNames⟩)
  have knownLayer : checkUnknown (unknownKeys config.layer) = .ok () := rfl
  rw [← inRange.ofLayer_layer_eq_ok]
  refine ofLayer_congr (known.trans knownLayer.symm) fun name => ?_
  rw [settingValue_layered distinct, values]

/-! ## Overrides -/

theorem undivided_of_mem_names
    {name : String}
    (known : name ∈ names) :
    ∀ char ∈ name.toList, char ≠ '=' ∧ char ≠ '.' ∧ char ≠ '[' := by
  have each :
      (names.all fun name => name.toList.all fun char =>
        char ≠ '=' && char ≠ '.' && char ≠ '[') = true := by
    decide +kernel
  have undivided := List.all_eq_true.mp each name known
  simpa [and_assoc] using undivided

private theorem assigns_overrideText
    {entry : String × Value}
    (known : entry.1 ∈ names)
    (isWritten : IsWritten entry.2)
    (short : isTooLong entry.2 = false) :
    Assigns (overrideText entry) entry where
  written := ⟨spelling entry.2, rfl, by simp [isWritten.read, reread, short]⟩
  undivided := undivided_of_mem_names known
  scalar := isWritten.scalar

theorem assigns_overrideTexts
    (known : ∀ entry ∈ written, entry.1 ∈ names)
    (isWritten : ∀ entry ∈ written, IsWritten entry.2)
    (short : ∀ entry ∈ written, isTooLong entry.2 = false) :
    List.Forall₂ Assigns (written.map overrideText) written := by
  rw [List.forall₂_map_left_iff, List.forall₂_same]
  intro entry listed
  exact assigns_overrideText (known entry listed) (isWritten entry listed)
    (short entry listed)

private theorem load_overrides_of_short
    (inRange : config.InRange)
    (ordered : written.Perm config.entries)
    (short : ∀ entry ∈ written, isTooLong entry.2 = false) :
    load none (written.map overrideText) = .ok config := by
  have writable := inRange.writable ordered
  have assigns := assigns_overrideTexts writable.known writable.isWritten short
  rw [load_of_flat .absent assigns,
    checked_of_isSetting (List.forall_mem_nil _) (List.forall_mem_nil _)]
  refine ofLayer_layered_of_effective inRange (List.forall_mem_nil _) writable.known
    List.Pairwise.nil fun name => ?_
  have nothing : Value.find? [] (.text name) = none := rfl
  rw [← lookup_getD_default ordered name, effective, nothing, Option.or_none]

private theorem ofText_overrideText_of_tooLong
    {entry : String × Value}
    (known : entry.1 ∈ names)
    (isWritten : IsWritten entry.2)
    (long : isTooLong entry.2 = true) :
    Override.ofText (overrideText entry) = .error (.digits (digitCount entry.2)) := by
  have noSign : ∀ char ∈ entry.1.toList, (!decide (char = '=')) = true := by
    intro char belongs
    simpa using (undivided_of_mem_names known char belongs).1
  simp [Override.ofText, overrideText, List.dropWhile_append_of_pos noSign,
    isWritten.read, reread, long, Except.map]

/-- The first integer that is too long is refused. -/
theorem load_overrides_of_tooLong
    {before after : List (String × Value)} {entry : String × Value}
    (writable : Writable (before ++ entry :: after))
    (short : ∀ other ∈ before, isTooLong other.2 = false)
    (long : isTooLong entry.2 = true) :
    load none ((before ++ entry :: after).map overrideText) =
      .error (.numeral (.digits (digitCount entry.2))) := by
  obtain ⟨knownBefore, knownRest⟩ := List.forall_mem_append.mp writable.known
  obtain ⟨writtenBefore, writtenRest⟩ := List.forall_mem_append.mp writable.isWritten
  have assigns := assigns_overrideTexts knownBefore writtenBefore short
  have refused :=
    ofText_overrideText_of_tooLong (knownRest entry List.mem_cons_self)
      (writtenRest entry List.mem_cons_self) long
  have overrides :
      overrideLayer ((before ++ entry :: after).map overrideText) =
        .error (.numeral (.digits (digitCount entry.2))) := by
    rw [overrideLayer, foldlM_eq_error_iff]
    refine ⟨before.map overrideText, overrideText entry, after.map overrideText, _,
      by rw [List.map_append, List.map_cons], overrideLayer_of_assigns assigns, ?_⟩
    rw [storeOverride, refused]
    rfl
  rw [load, loadBy, readLayers, overrides]
  rfl

/-! ## Files -/

/-- The key and the value of a line, as characters. -/
def lineChars (entry : String × Value) : List Char × List Char :=
  (entry.1.toList, (spelling entry.2).toList)

theorem fileText_eq
    (written : List (String × Value)) :
    fileText written = .ofList (Yaml.linesText (written.map lineChars)) := by
  apply String.toList_inj.mp
  simp [fileText, Yaml.linesText, Yaml.lineText, lineChars, line, List.flatMap_map]

private theorem isTextWord_of_mem_names :
    ∀ name ∈ names, Yaml.IsTextWord name.toList := by
  simp only [names, entries, List.map_cons, List.map_nil, List.forall_mem_cons]
  exact ⟨rfl, rfl, rfl, rfl, rfl, rfl, rfl, rfl, rfl, List.forall_mem_nil _⟩

private theorem isWord_of_mem_names
    {name : String}
    (known : name ∈ names) :
    Yaml.IsWord name.toList := by
  have each :
      (names.all fun name =>
        !name.toList.isEmpty && name.toList.all Yaml.isWordLetter) = true := by
    decide +kernel
  have letters := List.all_eq_true.mp each name known
  simp only [Bool.and_eq_true, Bool.not_eq_true', List.isEmpty_eq_false_iff,
    List.all_eq_true] at letters
  exact Yaml.isWord_of_letters letters.1 letters.2

theorem Writable.isWordLine
    (writable : Writable written) :
    ∀ line ∈ written.map lineChars, Yaml.IsWordLine line := by
  rw [List.forall_mem_map]
  intro entry listed
  exact ⟨isWord_of_mem_names (writable.known entry listed),
    (writable.isWritten entry listed).word⟩

/-- A file of lines is read line by line. -/
theorem Writable.read_fileText
    (writable : Writable written) :
    Yaml.read (fileText written) =
      (written.mapM fun entry => Yaml.lineEntry (lineChars entry)).map fun own =>
        .ofEntries own := by
  have textKeys : ∀ line ∈ written.map lineChars, Yaml.IsTextWord line.1 := by
    rw [List.forall_mem_map]
    exact fun entry listed => isTextWord_of_mem_names entry.1 (writable.known entry listed)
  have keys : ((written.map lineChars).map Prod.fst).Nodup := by
    have distinct := writable.nodup.map (f := String.toList) fun _ _ => String.toList_inj.mp
    simpa [lineChars, Function.comp_def] using distinct
  have nonempty : written.map lineChars ≠ [] := by
    simpa using writable.nonempty
  rw [fileText_eq, Yaml.read_linesText nonempty writable.isWordLine textKeys keys,
    List.mapM_map]
  rfl

theorem Writable.decode_fileText
    (writable : Writable written) :
    Text.decode (fileText written).toUTF8.data.toList = .ok (fileText written) := by
  rw [fileText_eq]
  apply Text.decode_of_ascii
  intro char belongs
  have bounds := Yaml.toNat_of_isInLine
    (Yaml.isInLine_of_mem_linesText writable.isWordLine char belongs)
  omega

private theorem lineEntry_of_short
    {entry : String × Value}
    (isWritten : IsWritten entry.2)
    (short : isTooLong entry.2 = false) :
    Yaml.lineEntry (lineChars entry) = .ok (assignedEntry entry) := by
  simp [Yaml.lineEntry, lineChars, isWritten.read, reread, short, assignedEntry, Except.map]

/-- Lines without long integers are read as their entries. -/
theorem mapM_lineEntry_of_short
    (isWritten : ∀ entry ∈ written, IsWritten entry.2)
    (short : ∀ entry ∈ written, isTooLong entry.2 = false) :
    (written.mapM fun entry => Yaml.lineEntry (lineChars entry)) =
      .ok (written.map assignedEntry) := by
  induction written with
  | nil => rfl
  | cons entry others inductionHypothesis =>
      obtain ⟨firstWritten, othersWritten⟩ := List.forall_mem_cons.mp isWritten
      obtain ⟨firstShort, othersShort⟩ := List.forall_mem_cons.mp short
      rw [List.mapM_cons, lineEntry_of_short firstWritten firstShort,
        inductionHypothesis othersWritten othersShort]
      rfl

/-- The file is a table with the entries that are written. -/
theorem Writable.flatFile
    (writable : Writable written)
    (short : ∀ entry ∈ written, isTooLong entry.2 = false)
    (path : String) :
    FlatFile (some (path, .ok (fileText written).toUTF8.data.toList))
      (Value.storeAll [] (written.map assignedEntry)) := by
  have read :
      Yaml.read (fileText written) =
        .ok (.table (Value.storeAll [] (written.map assignedEntry))) := by
    rw [writable.read_fileText, mapM_lineEntry_of_short writable.isWritten short]
    rfl
  refine .table writable.decode_fileText read
    (Value.forall_values_storeAll (List.forall_mem_nil _) ?_)
  rw [List.forall_mem_map]
  exact fun entry listed => (writable.isWritten entry listed).scalar

private theorem Writable.isSetting
    (writable : Writable written) :
    ∀ entry ∈ Value.storeAll [] (written.map assignedEntry), IsSetting entry.1 := by
  have texts (key : Value) (known : IsSetting key) : ∃ name, key = .text name := by
    obtain ⟨name, _, isName⟩ := known
    exact ⟨name, isName⟩
  have given : ∀ entry ∈ written.map assignedEntry, IsSetting entry.1 := by
    rw [List.forall_mem_map]
    exact fun entry listed => isSetting_text_iff.mpr (writable.known entry listed)
  have stored := (Value.forall_keys_storeAll_iff texts [] (written.map assignedEntry)).mpr
    ⟨List.forall_mem_nil _, given⟩
  exact fun entry listed => stored entry.1 (List.mem_map_of_mem listed)

private theorem load_file_of_short
    (inRange : config.InRange)
    (ordered : written.Perm config.entries)
    (short : ∀ entry ∈ written, isTooLong entry.2 = false)
    (path : String) :
    load (some (path, .ok (fileText written).toUTF8.data.toList)) [] = .ok config := by
  have writable := inRange.writable ordered
  have flat := writable.flatFile short path
  obtain ⟨scalars, distinct⟩ := flat.scalars_distinct
  have known := writable.isSetting
  rw [load_of_flat flat .nil, checked_of_isSetting scalars known]
  refine ofLayer_layered_of_effective inRange known (List.forall_mem_nil _) distinct
    fun name => ?_
  have nothing : Value.find? [] (.text name) = none := rfl
  rw [← lookup_getD_default ordered name, effective, Value.find?_storeAll, nothing,
    Option.or_none, ← List.map_reverse, find?_map_assignedEntry]
  rfl

private theorem load_file_of_tooLong
    {before after : List (String × Value)} {entry : String × Value}
    (writable : Writable (before ++ entry :: after))
    (short : ∀ other ∈ before, isTooLong other.2 = false)
    (long : isTooLong entry.2 = true)
    (path : String) :
    load
        (some (path, .ok (fileText (before ++ entry :: after)).toUTF8.data.toList)) [] =
      .error (.numeral (.digits (digitCount entry.2))) := by
  obtain ⟨writtenBefore, writtenRest⟩ := List.forall_mem_append.mp writable.isWritten
  have refused :
      Yaml.lineEntry (lineChars entry) = .error (.digits (digitCount entry.2)) := by
    simp [Yaml.lineEntry, lineChars, (writtenRest entry List.mem_cons_self).read, reread,
      long, Except.map]
  have read :
      Yaml.read (fileText (before ++ entry :: after)) =
        .error (.digits (digitCount entry.2)) := by
    rw [writable.read_fileText, List.mapM_append, List.mapM_cons,
      mapM_lineEntry_of_short writtenBefore short, refused]
    rfl
  have file :
      optionalFileLayer
          (some (path, .ok (fileText (before ++ entry :: after)).toUTF8.data.toList)) =
        .error (.numeral (.digits (digitCount entry.2))) := by
    simp only [optionalFileLayer, fileLayer, writable.decode_fileText, read, mapError_ok,
      mapError_error, documentError, bind, Except.bind]
  rw [load, loadBy, readLayers, file]
  rfl

end

/-! ## Round trips -/

private theorem exists_first_tooLong
    {written : List (String × Value)}
    (long : ∃ entry ∈ written, isTooLong entry.2 = true) :
    ∃ before entry after, written = before ++ entry :: after ∧
      (∀ other ∈ before, isTooLong other.2 = false) ∧ isTooLong entry.2 = true := by
  obtain ⟨entry, found⟩ := Option.isSome_iff_exists.mp (List.find?_isSome.mpr long)
  obtain ⟨entryLong, before, after, split, short⟩ := List.find?_eq_some_iff_append.mp found
  exact ⟨before, entry, after, split, by simpa using short, entryLong⟩

/-- A long integer is refused in an override and in a file alike. -/
theorem InRange.load_of_tooLong
    {config : Config} {written : List (String × Value)}
    (inRange : config.InRange)
    (ordered : written.Perm config.entries)
    (long : ∃ entry ∈ config.entries, isTooLong entry.2 = true)
    (path : String) :
    ∃ entry ∈ config.entries, isTooLong entry.2 = true ∧
      load none (written.map overrideText) =
        .error (.numeral (.digits (digitCount entry.2))) ∧
      load (some (path, .ok (fileText written).toUTF8.data.toList)) [] =
        .error (.numeral (.digits (digitCount entry.2))) := by
  have writable := inRange.writable ordered
  have longWritten : ∃ entry ∈ written, isTooLong entry.2 = true := by
    obtain ⟨entry, listed, entryLong⟩ := long
    exact ⟨entry, ordered.mem_iff.mpr listed, entryLong⟩
  obtain ⟨before, entry, after, rfl, short, entryLong⟩ := exists_first_tooLong longWritten
  have listed : entry ∈ before ++ entry :: after :=
    List.mem_append_right before List.mem_cons_self
  exact ⟨entry, ordered.mem_iff.mp listed, entryLong,
    load_overrides_of_tooLong writable short entryLong,
    load_file_of_tooLong writable short entryLong path⟩

/-- Settings that are accepted are the same after they are written out, in any
order, and loaded again.  If an integer among them has too many digits they are
refused instead, as overrides and in a file alike. -/
theorem load_written
    {config : Config} {written : List (String × Value)}
    (accepted : config.validate = .ok config)
    (ordered : written.Perm config.entries)
    (path : String) :
    ((∀ entry ∈ config.entries, isTooLong entry.2 = false) →
      load none (written.map overrideText) = .ok config ∧
        load (some (path, .ok (fileText written).toUTF8.data.toList)) [] =
          .ok config) ∧
    ((∃ entry ∈ config.entries, isTooLong entry.2 = true) →
      ∃ entry ∈ config.entries, isTooLong entry.2 = true ∧
        load none (written.map overrideText) =
          .error (.numeral (.digits (digitCount entry.2))) ∧
        load (some (path, .ok (fileText written).toUTF8.data.toList)) [] =
          .error (.numeral (.digits (digitCount entry.2)))) := by
  obtain ⟨inRange, _⟩ := validate_eq_ok_iff.mp accepted
  constructor
  · intro short
    have shortWritten : ∀ entry ∈ written, isTooLong entry.2 = false :=
      fun entry listed => short entry (ordered.mem_iff.mp listed)
    exact ⟨load_overrides_of_short inRange ordered shortWritten,
      load_file_of_short inRange ordered shortWritten path⟩
  · intro long
    exact inRange.load_of_tooLong ordered long path

theorem load_written_reversed :
    let config : Config :=
      { colorScheme := "amber", seed := -7, stackLimit := some 12, haltOnFault := false
        logLevel := "DEBUG" }
    load none
        ["log_interval=600", "log_level=DEBUG", "halt_on_fault=false", "stack_limit=12",
          "seed=-7", "color_scheme=amber", "scale=16", "fps=60",
          "instructions_per_frame=16"] = .ok config ∧
      load
          (some ("run.yaml",
            .ok (fileText config.entries.reverse).toUTF8.data.toList)) [] =
        .ok config := by
  intro config
  have accepted : config.validate = .ok config :=
    validate_eq_ok_iff.mpr ⟨violation?_eq_none_iff.mp (by decide +kernel), rfl⟩
  have short : ∀ entry ∈ config.entries, isTooLong entry.2 = false := by decide +kernel
  have texts :
      ["log_interval=600", "log_level=DEBUG", "halt_on_fault=false", "stack_limit=12",
        "seed=-7", "color_scheme=amber", "scale=16", "fps=60",
        "instructions_per_frame=16"] = config.entries.reverse.map overrideText := by
    decide +kernel
  rw [texts]
  exact (load_written accepted (List.reverse_perm config.entries) "run.yaml").1 short

private theorem exists_tooLong :
    ∃ number : Nat, isTooLong (.int number) = true := by
  have power (limit : Nat) (positive : 0 < limit) :
      limit < (Numeral.decimal (Nat.pow 10 limit)).length := by
    rw [Numeral.decimal, ← Nat.not_le, Nat.length_toDigits_le_iff (by decide) positive]
    exact Nat.lt_irrefl _
  refine ⟨Nat.pow 10 Text.longestInteger, ?_⟩
  rw [isTooLong, decide_eq_true_eq, digitCount, Int.natAbs_natCast]
  exact power Text.longestInteger (by decide)

private theorem inRange_of_logInterval
    {interval : Int}
    (nonnegative : 0 ≤ interval) :
    InRange { logInterval := interval } :=
  { inRange_defaults with logInterval := nonnegative }

/-- Some settings are accepted and yet refused as they are written. -/
theorem exists_accepted_not_load_written :
    ∃ config : Config, config.validate = .ok config ∧
      load none (config.entries.map overrideText) ≠ .ok config ∧
      load (some ("run.yaml", .ok (fileText config.entries).toUTF8.data.toList)) [] ≠
        .ok config := by
  obtain ⟨number, tooLong⟩ := exists_tooLong
  have inRange := inRange_of_logInterval (Int.natCast_nonneg number)
  have long :
      ∃ entry ∈ ({ logInterval := number } : Config).entries,
        isTooLong entry.2 = true :=
    ⟨("log_interval", .int number), by simp [entries], tooLong⟩
  obtain ⟨entry, _, _, overrides, file⟩ :=
    inRange.load_of_tooLong (List.Perm.refl _) long "run.yaml"
  refine ⟨_, validate_eq_ok_iff.mpr ⟨inRange, rfl⟩, ?_, ?_⟩
  · rw [overrides]
    simp
  · rw [file]
    simp

end Config

end Chip8
