import Mathlib.Data.List.Perm.Basic
import Chip8.Proofs.DecimalScalars
import Chip8.Proofs.Tables

/-!
# Accepted layers

A merged layer is accepted if all its keys are settings and its values can be
brought to their kinds and are in range.  What is reported about unknown keys
does not depend on their order.
-/

namespace Chip8.Config

/-- The settings have the given values, brought to their kinds. -/
structure Coerced (value : String → Value) (config : Config) : Prop where
  instructionsPerFrame :
    value "instructions_per_frame" = .int config.instructionsPerFrame
  fps : value "fps" = .int config.fps
  scale : value "scale" = .int config.scale
  colorScheme :
    value "color_scheme" ≠ .null ∧
      config.colorScheme = (value "color_scheme").display
  seed : value "seed" = .int config.seed
  stackLimit :
    value "stack_limit" = (config.stackLimit.map Value.int).getD .null
  haltOnFault : value "halt_on_fault" = .bool config.haltOnFault
  logLevel :
    value "log_level" ≠ .null ∧
      config.logLevel = Text.upper (value "log_level").display
  logInterval : value "log_interval" = .int config.logInterval

/-! ## Known keys -/

def IsSetting (key : Value) : Prop := ∃ name ∈ names, key = .text name

theorem unknownKeys_eq_nil_iff
    {layer : Layer} :
    unknownKeys layer = [] ↔ ∀ key ∈ layer.map Prod.fst, IsSetting key := by
  simp [unknownKeys, IsSetting, List.filter_eq_nil_iff]

@[simp]
theorem isSetting_text_iff
    {name : String} :
    IsSetting (.text name) ↔ name ∈ names := by
  simp [IsSetting]

/-! ## The check of a layer -/

section

variable {layer : Layer} {name : String}

private theorem integer_eq_ok_iff
    {value : Int} :
    integer layer name = .ok value ↔ settingValue layer name = .int value := by
  unfold integer
  cases settingValue layer name <;> simp

private theorem optionalInteger_eq_ok_iff
    {value : Option Int} :
    optionalInteger layer name = .ok value ↔
      settingValue layer name = (value.map Value.int).getD .null := by
  unfold optionalInteger
  cases value <;> cases settingValue layer name <;> simp

private theorem boolean_eq_ok_iff
    {value : Bool} :
    boolean layer name = .ok value ↔ settingValue layer name = .bool value := by
  unfold boolean
  cases settingValue layer name <;> simp

private theorem word_eq_ok_iff
    {text : String} :
    word layer name = .ok text ↔
      settingValue layer name ≠ .null ∧
        (settingValue layer name).isWritable = true ∧
        text = (settingValue layer name).display := by
  have written (value : Value) :
      (if value.isWritable = true then .ok value.display
          else .error .unwritable : Except LoadError String) = .ok text ↔
        value.isWritable = true ∧ text = value.display := by
    by_cases writable : value.isWritable = true
    · simp [writable, eq_comm]
    · simp [writable]
  unfold word
  split
  next isNull => simp [isNull]
  next notNull =>
    rw [written]
    exact (and_iff_right notNull).symm

end

/-! ## Words -/

/-- Whether a text that starts with the character may be that of an integer or
of a collection. -/
def opensNumber (char : Char) : Bool :=
  char.isDigit || char == '-' || char == '[' || char == '\x7b'

/-- Only integers and collections can hold what cannot be written. -/
theorem exists_opening_of_unwritable
    {value : Value}
    (unwritable : value.isWritable = false) :
    ∃ char rest,
      opensNumber char = true ∧ value.display.toList = char :: rest := by
  cases value with
  | int number =>
      obtain ⟨first, others, isDecimal⟩ :=
        List.exists_cons_of_ne_nil (Numeral.decimal_ne_nil number.natAbs)
      have isText :
          (Value.int number).display.toList =
            Numeral.sign number ++ Numeral.decimal number.natAbs := by
        rw [Value.display, Value.literal, Numeral.text, String.toList_ofList]
        simp
      by_cases negative : number < 0
      · exact ⟨'-', _, rfl, by rw [isText, Numeral.sign, if_pos negative]; rfl⟩
      · refine ⟨first, others, ?_, ?_⟩
        · have isDigit : first.isDigit = true :=
            Numeral.isDigit_of_mem_decimal (by rw [isDecimal]; simp)
          simp [opensNumber, isDigit]
        · rw [isText, Numeral.sign, if_neg negative, isDecimal]
          rfl
  | list items =>
      refine ⟨'[', (", ".intercalate (Value.literals items) ++ "]").toList, rfl, ?_⟩
      simp [Value.display, Value.literal]
  | table entries =>
      refine ⟨'\x7b',
        (", ".intercalate (Value.entryLiterals entries) ++ "\x7d").toList, rfl, ?_⟩
      simp [Value.display, Value.literal]
  | _ => simp [Value.isWritable] at unwritable

private theorem upperChar_of_opensNumber
    {char : Char} (opens : opensNumber char = true) :
    Text.upperChar char = [char] := by
  have codes :
      ((List.range 128).all fun code =>
        !opensNumber (.ofNat code) ||
          Text.upperChar (.ofNat code) == [.ofNat code]) = true := by
    decide +kernel
  have isAscii : char.toNat < 128 := by
    simp only [opensNumber, Char.isDigit, Bool.or_eq_true, Bool.and_eq_true,
      decide_eq_true_eq, beq_iff_eq] at opens
    rcases opens with ((digit | rfl) | rfl) | rfl
    · have bound : char.val.toNat ≤ 57 := UInt32.le_iff_toNat_le.mp digit.2
      exact Nat.lt_of_le_of_lt bound (by decide)
    all_goals decide
  have same := List.all_eq_true.mp codes char.toNat (List.mem_range.mpr isAscii)
  rw [Char.ofNat_toNat, opens] at same
  simpa using same

/-- A palette or a level has no name that could be the text of an integer or of a
collection. -/
theorem isWritable_of_known
    {value : Value}
    (known : (Palette.find? value.display).isSome = true ∨
      (LogLevel.find? (Text.upper value.display)).isSome = true) :
    value.isWritable = true := by
  have letters :
      ((Palette.names ++ LogLevel.names).all fun name =>
        name.toList.head?.all (!opensNumber ·)) = true := by
    decide +kernel
  by_contra notWritable
  rw [Bool.not_eq_true] at notWritable
  obtain ⟨char, rest, opens, isText⟩ := exists_opening_of_unwritable notWritable
  have unlisted (name : String) (others : List Char)
      (isName : name.toList = char :: others) :
      name ∉ Palette.names ++ LogLevel.names := by
    intro listed
    have first := List.all_eq_true.mp letters name listed
    simp [isName, opens] at first
  rcases known with palette | level
  · obtain ⟨found, isFound⟩ := Option.isSome_iff_exists.mp palette
    exact unlisted _ _ isText
      (List.mem_append_left _ (mem_of_lookup isFound))
  · obtain ⟨found, isFound⟩ := Option.isSome_iff_exists.mp level
    have isUpper :
        (Text.upper value.display).toList = char :: rest.flatMap Text.upperChar := by
      rw [Text.upper, String.toList_ofList, isText, List.flatMap_cons,
        upperChar_of_opensNumber opens]
      rfl
    exact unlisted _ _ isUpper
      (List.mem_append_right _ (mem_of_lookup isFound))

def isText : Value → Bool
  | .text _ => true
  | _ => false

theorem checkUnknown_of_ne_nil
    {keys : List Value}
    (unknown : keys ≠ []) :
    checkUnknown keys =
      match keys.find? (!isText ·) with
      | some other =>
          if keys.any isText then .error (.unordered (kindName other))
          else .error (.unknown (keys.mergeSort keyLe))
      | none => .error (.unknown (keys.mergeSort keyLe)) := by
  cases keys with
  | nil => contradiction
  | cons first rest => rfl

theorem checkUnknown_eq_ok_iff
    {keys : List Value} {done : Unit} :
    checkUnknown keys = .ok done ↔ keys = [] := by
  by_cases known : keys = []
  · subst known
    simp [checkUnknown]
  · rw [checkUnknown_of_ne_nil known]
    split
    · split
      · simp [known]
      · simp [known]
    · simp [known]

/-- A layer is accepted if it has no unknown keys and its values can be brought
to their kinds and are in range. -/
theorem ofLayer_eq_ok_iff
    {layer : Layer} {config : Config} :
    ofLayer layer = .ok config ↔
      unknownKeys layer = [] ∧ Coerced (settingValue layer) config ∧
        config.InRange := by
  simp only [ofLayer, bind_eq_ok_iff, mapError_eq_ok_iff, validate_eq_ok_iff,
    checkUnknown_eq_ok_iff, integer_eq_ok_iff, optionalInteger_eq_ok_iff,
    boolean_eq_ok_iff, word_eq_ok_iff]
  constructor
  · intro accepted
    obtain ⟨_, known, _, instructions, _, fps, _, scale, _, scheme, _, seed, _,
      limit, _, halt, _, level, _, interval, inRange, rfl⟩ := accepted
    refine ⟨known, ?_, inRange⟩
    exact ⟨instructions, fps, scale, ⟨scheme.1, scheme.2.2⟩, seed, limit, halt,
      ⟨level.1, congrArg Text.upper level.2.2⟩, interval⟩
  · intro accepted
    obtain ⟨known, coerced, inRange⟩ := accepted
    have isConfig :
        { config with
          logLevel := Text.upper (settingValue layer "log_level").display } =
            config := by
      rw [← coerced.logLevel.2]
    have scheme : (settingValue layer "color_scheme").isWritable = true :=
      isWritable_of_known (.inl (coerced.colorScheme.2 ▸ inRange.colorScheme))
    have level : (settingValue layer "log_level").isWritable = true :=
      isWritable_of_known (.inr (coerced.logLevel.2 ▸ inRange.logLevel))
    refine ⟨(), known, _, coerced.instructionsPerFrame, _, coerced.fps, _,
      coerced.scale, _,
      ⟨coerced.colorScheme.1, scheme, coerced.colorScheme.2⟩, _, coerced.seed, _,
      coerced.stackLimit, _, coerced.haltOnFault, _,
      ⟨coerced.logLevel.1, level, rfl⟩, _, coerced.logInterval, ?_,
      isConfig.symm⟩
    exact isConfig ▸ inRange

/-! ## The order of unknown keys -/

private theorem mergeSort_keyLe_map_text
    {first second : List String}
    (permuted : first.Perm second) :
    (first.map Value.text).mergeSort keyLe =
      (second.map Value.text).mergeSort keyLe := by
  have ordered (names : List String) :
      (names.map Value.text).mergeSort keyLe =
        (names.mergeSort fun one other => decide (one ≤ other)).map .text :=
    (List.map_mergeSort (f := Value.text) (s := keyLe) fun _ _ _ _ => rfl).symm
  have sorted (names : List String) :
      (names.mergeSort fun one other => decide (one ≤ other)).Pairwise
        fun one other => decide (one ≤ other) = true := by
    apply List.pairwise_mergeSort
    · intro one other third below above
      simp only [decide_eq_true_eq] at below above ⊢
      exact String.le_trans below above
    · intro one other
      simpa using String.le_total one other
  have same :
      (first.mergeSort fun one other => decide (one ≤ other)) =
        second.mergeSort fun one other => decide (one ≤ other) := by
    refine List.Perm.eq_of_pairwise ?_ (sorted first) (sorted second) ?_
    · intro one other _ _ below above
      simp only [decide_eq_true_eq] at below above
      exact String.le_antisymm below above
    · exact (List.mergeSort_perm _ _).trans
        (permuted.trans (List.mergeSort_perm _ _).symm)
  rw [ordered, ordered, same]

private theorem exists_map_text
    {keys : List Value}
    (texts : keys.find? (!isText ·) = none) :
    ∃ named : List String, keys = named.map .text := by
  induction keys with
  | nil => exact ⟨[], rfl⟩
  | cons key rest inductionHypothesis =>
      rw [List.find?_eq_none] at texts
      obtain ⟨first, others⟩ := List.forall_mem_cons.mp texts
      obtain ⟨named, isRest⟩ :=
        inductionHypothesis (List.find?_eq_none.mpr others)
      cases key with
      | text name => exact ⟨name :: named, by rw [isRest, List.map_cons]⟩
      | _ => simp [isText] at first

/-- Unknown texts behind other keys are reported in the same way in any
order. -/
theorem checkUnknown_append_perm
    (keys : List Value) {first second : List String}
    (permuted : first.Perm second) :
    checkUnknown (keys ++ first.map .text) =
      checkUnknown (keys ++ second.map .text) := by
  have noOther (named : List String) :
      (named.map Value.text).find? (!isText ·) = none := by
    simp [isText]
  by_cases noTexts : first = []
  · subst noTexts
    rw [List.nil_perm.mp permuted]
  have someTexts : second ≠ [] := by
    intro empty
    subst empty
    exact noTexts (List.perm_nil.mp permuted)
  have hasText {named : List String} (nonempty : named ≠ []) :
      (keys ++ named.map Value.text).any isText = true := by
    obtain ⟨name, rest, rfl⟩ := List.exists_cons_of_ne_nil nonempty
    simp [isText]
  have nonempty {named : List String} (nonempty : named ≠ []) :
      keys ++ named.map .text ≠ [] := by
    simp [nonempty]
  rw [checkUnknown_of_ne_nil (nonempty noTexts),
    checkUnknown_of_ne_nil (nonempty someTexts), List.find?_append,
    List.find?_append, noOther, noOther, Option.or_none, hasText noTexts,
    hasText someTexts]
  cases found : keys.find? (!isText ·) with
  | some other => rfl
  | none =>
      obtain ⟨named, rfl⟩ := exists_map_text found
      have sorted := mergeSort_keyLe_map_text (permuted.append_left named)
      simp only [List.map_append] at sorted
      simp only [sorted]

theorem ofLayer_congr
    {first second : Layer}
    (unknown :
      checkUnknown (unknownKeys first) = checkUnknown (unknownKeys second))
    (values : ∀ name, settingValue first name = settingValue second name) :
    ofLayer first = ofLayer second := by
  simp only [ofLayer, unknown, integer, optionalInteger, boolean, word, values]

end Chip8.Config
