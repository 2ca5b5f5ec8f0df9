import Chip8.Config.Load

/-!
# Accepted settings

Loading settings ends with a check of their ranges, so what is accepted is in
range (`inRange_of_load`).  In the other direction, `layer` spells settings out
as a layer, and loading that layer gives them back if they are in range.
-/

namespace Chip8

theorem bind_eq_ok_iff
    {ε α β : Type} {computation : Except ε α}
    {continuation : α → Except ε β} {result : β} :
    computation >>= continuation = .ok result ↔
      ∃ value, computation = .ok value ∧ continuation value = .ok result := by
  cases computation with
  | error reason => simp [bind, Except.bind]
  | ok value => simp [bind, Except.bind]

@[simp] theorem mapError_ok
    {ε δ α : Type} {report : ε → δ} {value : α} :
    (.ok value : Except ε α).mapError report = .ok value :=
  rfl

@[simp] theorem mapError_error
    {ε δ α : Type} {report : ε → δ} {reason : ε} :
    (.error reason : Except ε α).mapError report = .error (report reason) :=
  rfl

@[simp]
theorem mapError_eq_ok_iff
    {ε δ α : Type} {computation : Except ε α} {report : ε → δ} {result : α} :
    computation.mapError report = .ok result ↔ computation = .ok result := by
  cases computation with
  | error reason => simp
  | ok value => simp

theorem mem_of_lookup
    {α : Type} {name : String} {value : α} {table : List (String × α)}
    (found : table.lookup name = some value) :
    name ∈ table.map Prod.fst := by
  obtain ⟨before, after, split, _⟩ := List.lookup_eq_some_iff.mp found
  simp [split]

/-- The names of the levels are in upper case. -/
theorem LogLevel.upper_of_find?
    {name : String} {level : LogLevel}
    (known : find? name = some level) :
    Text.upper name = name := by
  have table : ∀ listed ∈ names, Text.upper listed = listed := by
    decide +kernel
  exact table name (mem_of_lookup known)

namespace Config

/-! ## Ranges -/

/-- The ranges of the settings.  There is none for the seed. -/
structure InRange (config : Config) : Prop where
  instructionsPerFrame : 1 ≤ config.instructionsPerFrame
  fps : 0 ≤ config.fps
  scale : 1 ≤ config.scale
  colorScheme : (Palette.find? config.colorScheme).isSome
  stackLimit : ∀ bound, config.stackLimit = some bound → 1 ≤ bound
  logLevel : (LogLevel.find? config.logLevel).isSome
  logInterval : 0 ≤ config.logInterval

theorem check_eq_none_iff
    {objection : Prop} [Decidable objection] {violation : Violation}
    {rest : Option Violation} :
    (if objection then some violation else rest) = none ↔ ¬ objection ∧ rest = none := by
  by_cases objects : objection
  · simp [objects]
  · simp [objects]

/-- No violation is found exactly if every setting is in its range. -/
theorem violation?_eq_none_iff
    {config : Config} :
    config.violation? = none ↔ config.InRange := by
  have limited :
      config.stackLimit.filter (· < 1) = none ↔
        ∀ bound, config.stackLimit = some bound → 1 ≤ bound := by
    simp [Option.filter_eq_none_iff]
  cases filtered : config.stackLimit.filter (· < 1) with
  | some bound =>
      have tooSmall : ¬ config.InRange := by
        intro inRange
        have passed := limited.mpr inRange.stackLimit
        rw [filtered] at passed
        contradiction
      simp [violation?, check_eq_none_iff, filtered, tooSmall]
  | none =>
      simp only [violation?, check_eq_none_iff, filtered, Int.not_lt,
        Bool.not_eq_true, Option.isNone_eq_false_iff, and_true]
      constructor
      · intro passed
        obtain ⟨instructions, fps, scale, scheme, level, interval⟩ := passed
        exact ⟨instructions, fps, scale, scheme, limited.mp filtered, level, interval⟩
      · intro inRange
        exact ⟨inRange.instructionsPerFrame, inRange.fps, inRange.scale,
          inRange.colorScheme, inRange.logLevel, inRange.logInterval⟩

theorem validate_eq_ok_iff
    {config result : Config} :
    config.validate = .ok result ↔ config.InRange ∧ result = config := by
  rw [← violation?_eq_none_iff, validate]
  cases config.violation? with
  | none => simp [eq_comm]
  | some violation => simp

private theorem inRange_of_ofLayer
    {layer : Layer} {config : Config}
    (accepted : ofLayer layer = .ok config) :
    config.InRange := by
  -- one pair for the unknown keys and one for each of the nine settings
  simp only [ofLayer, bind_eq_ok_iff, mapError_eq_ok_iff, validate_eq_ok_iff] at accepted
  obtain ⟨_, _, _, _, _, _, _, _, _, _, _, _, _, _, _, _, _, _, _, _, inRange, rfl⟩ :=
    accepted
  exact inRange

private theorem inRange_of_loadBy
    {layering : Layering}
    {file : Option (String × Except FileError (List UInt8))}
    {overrides : List String} {config : Config}
    (accepted : loadBy layering file overrides = .ok config) :
    config.InRange := by
  obtain ⟨layer, _, built⟩ := bind_eq_ok_iff.mp accepted
  exact inRange_of_ofLayer built

theorem inRange_of_load
    {file : Option (String × Except FileError (List UInt8))}
    {overrides : List String} {config : Config}
    (accepted : load file overrides = .ok config) :
    config.InRange :=
  inRange_of_loadBy accepted

/-! ## Values without references -/

/-- Whether a value is a scalar that refers to no other setting. -/
def isPlain : Value → Bool
  | .text text => !hasReference text.toList
  | .list _ | .table _ => false
  | _ => true

private theorem resolve_of_isPlain
    (root : Layer) (fuel : Nat) {value : Value}
    (plain : isPlain value = true) :
    resolve root fuel value = .ok value := by
  unfold resolve
  cases value with
  | text text =>
      have noReference : hasReference text.toList = false := by
        simpa [isPlain] using plain
      simp [noReference]
  | list items => simp [isPlain] at plain
  | table entries => simp [isPlain] at plain
  | null => rfl
  | bool value => rfl
  | int value => rfl
  | real value => rfl

theorem resolveEntries_of_isPlain
    (root : Layer) (fuel : Nat) {entries : Layer}
    (plain : ∀ entry ∈ entries, isPlain entry.2 = true) :
    resolveEntries root fuel entries = .ok entries := by
  induction entries with
  | nil => simp [resolveEntries]
  | cons entry rest hypothesis =>
      have first := resolve_of_isPlain root fuel (plain entry List.mem_cons_self)
      have others := hypothesis fun entry member =>
        plain entry (List.mem_cons_of_mem _ member)
      unfold resolveEntries
      simp [first, others, bind, Except.bind, pure, Except.pure]

/-! ## Settings spelled out -/

def layer (config : Config) : Layer :=
  config.entries.map fun entry => (.text entry.1, entry.2)

private theorem ofLayer_layer
    (config : Config) :
    ofLayer config.layer =
      { config with logLevel := Text.upper config.logLevel }.validate.mapError
        .violation := by
  have known : checkUnknown (unknownKeys config.layer) = .ok () := rfl
  have instructions :
      integer config.layer "instructions_per_frame" = .ok config.instructionsPerFrame := rfl
  have fps : integer config.layer "fps" = .ok config.fps := rfl
  have scale : integer config.layer "scale" = .ok config.scale := rfl
  have scheme : word config.layer "color_scheme" = .ok config.colorScheme := rfl
  have seed : integer config.layer "seed" = .ok config.seed := rfl
  have limit : optionalInteger config.layer "stack_limit" = .ok config.stackLimit := by
    have found :
        settingValue config.layer "stack_limit" =
          (config.stackLimit.map Value.int).getD .null := rfl
    cases stored : config.stackLimit with
    | none => simp [optionalInteger, found, stored]
    | some bound => simp [optionalInteger, found, stored]
  have halt : boolean config.layer "halt_on_fault" = .ok config.haltOnFault := rfl
  have level : word config.layer "log_level" = .ok config.logLevel := rfl
  have interval : integer config.layer "log_interval" = .ok config.logInterval := rfl
  simp only [ofLayer, known, instructions, fps, scale, scheme, seed, limit, halt,
    level, interval, bind, Except.bind]

private theorem isPlain_of_mem_layer
    {config : Config}
    (scheme : hasReference config.colorScheme.toList = false)
    (level : hasReference config.logLevel.toList = false)
    {entry : Value × Value}
    (listed : entry ∈ config.layer) :
    isPlain entry.2 = true := by
  have limit : isPlain ((config.stackLimit.map Value.int).getD .null) = true := by
    cases config.stackLimit with
    | none => rfl
    | some bound => rfl
  simp only [layer, entries, List.map_cons, List.map_nil, List.mem_cons,
    List.not_mem_nil, or_false] at listed
  rcases listed with rfl | rfl | rfl | rfl | rfl | rfl | rfl | rfl | rfl
  case inr.inr.inr.inl => simp [isPlain, scheme]
  case inr.inr.inr.inr.inr.inl => exact limit
  case inr.inr.inr.inr.inr.inr.inr.inl => simp [isPlain, level]
  all_goals rfl

/-- The names that are accepted refer to no other setting. -/
theorem InRange.resolve_layer
    {config : Config}
    (inRange : config.InRange)
    (root : Layer) (fuel : Nat) :
    resolveEntries root fuel config.layer = .ok config.layer := by
  have schemes : ∀ name ∈ Palette.names, hasReference name.toList = false := by
    decide +kernel
  have levels : ∀ name ∈ LogLevel.names, hasReference name.toList = false := by
    decide +kernel
  obtain ⟨palette, knownScheme⟩ := Option.isSome_iff_exists.mp inRange.colorScheme
  obtain ⟨level, knownLevel⟩ := Option.isSome_iff_exists.mp inRange.logLevel
  have plainScheme := schemes config.colorScheme (mem_of_lookup knownScheme)
  have plainLevel := levels config.logLevel (mem_of_lookup knownLevel)
  exact resolveEntries_of_isPlain root fuel fun _ listed =>
    isPlain_of_mem_layer plainScheme plainLevel listed

theorem InRange.ofLayer_layer_eq_ok
    {config : Config}
    (inRange : config.InRange) :
    ofLayer config.layer = .ok config := by
  obtain ⟨level, known⟩ := Option.isSome_iff_exists.mp inRange.logLevel
  rw [ofLayer_layer, LogLevel.upper_of_find? known]
  exact mapError_eq_ok_iff.mpr (validate_eq_ok_iff.mpr ⟨inRange, rfl⟩)

/-- Settings in range are loaded from any file and overrides that merge into
their layer. -/
theorem InRange.load_eq_ok
    {config : Config}
    (inRange : config.InRange)
    {file : Option (String × Except FileError (List UInt8))} {overrides : List String}
    {fileValue overrideValue base : Value}
    (readFile : optionalFileLayer file = .ok fileValue)
    (readOverrides : overrideLayer overrides = .ok overrideValue)
    (withFile : mergeValue (.table defaults) fileValue = .ok base)
    (withOverrides : mergeValue base overrideValue = .ok (.table config.layer)) :
    load file overrides = .ok config := by
  have merged : mergedLayer fileValue overrideValue = .ok config.layer := by
    simp only [mergedLayer, withFile, withOverrides, inRange.resolve_layer, bind,
      Except.bind, mapError_ok]
  simp only [load, loadBy, readLayers, readFile, readOverrides, merged,
    inRange.ofLayer_layer_eq_ok, bind, Except.bind]

end Config

end Chip8
