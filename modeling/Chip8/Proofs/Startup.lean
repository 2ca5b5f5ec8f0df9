import Chip8.CommandLine.Command
import Chip8.Proofs.Settings

/-!
# Starting from accepted settings

Before the program is read, a session builds three things from its settings:
the machine with its random bytes, the logger and the palette.  Each of them
has its own idea of what it takes.  Accepted settings meet what the logger and
the palette ask for, and their stack limit is one that the machine takes.  The
seed is the exception: no range is checked when settings are loaded, so a seed
that does not fit in 64 bits is noticed only by the source of random bytes.
-/

namespace Chip8

@[simp]
theorem RandomSource.fitsInt64_iff
    {value : Int} :
    fitsInt64 value = true ↔
      -9223372036854775808 ≤ value ∧ value ≤ 9223372036854775807 := by
  simp [fitsInt64]

private theorem RandomSource.seeded_usualBlockSize
    (seed : Int) :
    seeded seed usualBlockSize =
      if fitsInt64 seed then .ok (.blocks (.ofSeed seed usualBlockSize.toNat))
      else .error (.seedRange seed) := by
  simp [seeded, usualBlockSize]

/-- A stack limit in range leaves the answer to the source. -/
theorem Machine.create_of_positive
    {random : Except RandomSource.BuildError RandomSource} {limit : Option Int}
    (positive : ∀ bound, limit = some bound → 1 ≤ bound) :
    create random limit =
      (random.map fun source => initial source limit).mapError .random := by
  have inRange : limit.filter (· < 1) = none := by
    simpa [Option.filter_eq_none_iff] using positive
  cases random with
  | error reason => simp [create, inRange, Except.map]
  | ok source => simp [create, inRange, Except.map]

namespace Config

/-- Everything that a session builds before it reads the program can be
built. -/
structure Starts (config : Config) : Prop where
  machine :
    ∃ machine,
      Machine.create (RandomSource.seeded config.seed RandomSource.usualBlockSize)
        config.stackLimit = .ok machine
  logger : ∀ logger : Logger, ∃ leveled, logger.withLevel? config.logLevel = some leveled
  palette : ∃ palette, Palette.get config.colorScheme = .ok palette

def firstMachine (config : Config) : Machine :=
  .initial (.blocks (.ofSeed config.seed RandomSource.usualBlockSize.toNat))
    config.stackLimit

namespace InRange

variable {config : Config}

theorem create_eq
    (inRange : config.InRange) :
    Machine.create (RandomSource.seeded config.seed RandomSource.usualBlockSize)
        config.stackLimit =
      if RandomSource.fitsInt64 config.seed then .ok config.firstMachine
      else .error (.random (.seedRange config.seed)) := by
  rw [Machine.create_of_positive inRange.stackLimit, RandomSource.seeded_usualBlockSize]
  by_cases fits : RandomSource.fitsInt64 config.seed
  · simp [fits, firstMachine, Except.map]
  · simp [fits, Except.map]

/-- The logger reads the name of its level once more, in upper case. -/
theorem withLevel?_eq
    (inRange : config.InRange)
    (logger : Logger) :
    logger.withLevel? config.logLevel =
      some { logger with level := (LogLevel.find? config.logLevel).getD .info } := by
  obtain ⟨level, known⟩ := Option.isSome_iff_exists.mp inRange.logLevel
  have upper := LogLevel.upper_of_find? known
  simp [Logger.withLevel?, LogLevel.ofText?, upper, known]

theorem palette_eq
    (inRange : config.InRange) :
    Palette.get config.colorScheme =
      .ok ((Palette.find? config.colorScheme).getD .classic) := by
  obtain ⟨palette, known⟩ := Option.isSome_iff_exists.mp inRange.colorScheme
  simp [Palette.get, known]

/-- Of settings in their range only the seed decides whether a machine can be
built. -/
theorem starts_iff
    (inRange : config.InRange) :
    config.Starts ↔ RandomSource.fitsInt64 config.seed = true := by
  have created := inRange.create_eq
  constructor
  · intro starts
    obtain ⟨machine, built⟩ := starts.machine
    by_cases fits : RandomSource.fitsInt64 config.seed
    · exact fits
    · rw [created, if_neg fits] at built
      contradiction
  · intro fits
    rw [if_pos fits] at created
    exact ⟨⟨_, created⟩, fun logger => ⟨_, inRange.withLevel?_eq logger⟩,
      ⟨_, inRange.palette_eq⟩⟩

theorem with_seed
    (inRange : config.InRange)
    (seed : Int) :
    { config with seed := seed }.InRange :=
  ⟨inRange.instructionsPerFrame, inRange.fps, inRange.scale, inRange.colorScheme,
    inRange.stackLimit, inRange.logLevel, inRange.logInterval⟩

end InRange

open CommandLine in
/-- Accepted settings can be started exactly if their seed fits in 64 bits.
The logger and the palette never stand in the way, every seed is accepted, and
a session whose seed does not fit ends before the program is read. -/
theorem load_starts_iff
    {file : Option (String × Except FileError (List UInt8))}
    {overrides : List String} {config : Config}
    (accepted : load file overrides = .ok config) :
    (config.Starts ↔
        -9223372036854775808 ≤ config.seed ∧ config.seed ≤ 9223372036854775807) ∧
      (∀ logger : Logger,
        logger.withLevel? config.logLevel =
          some { logger with level := (LogLevel.find? config.logLevel).getD .info }) ∧
      Palette.get config.colorScheme =
        .ok ((Palette.find? config.colorScheme).getD .classic) ∧
      (∀ seed : Int,
        { config with seed := seed }.validate = .ok { config with seed := seed }) ∧
      ∀ (m : Type → Type) [Monad m] (host : Host m) (play : Play m)
        (logger : Logger) (arguments : Arguments),
        host.start play logger arguments config =
          if -9223372036854775808 ≤ config.seed ∧ config.seed ≤ 9223372036854775807 then
            host.launch play logger arguments config config.firstMachine
          else return .problem (.machine (.random (.seedRange config.seed))) := by
  have inRange := inRange_of_load accepted
  refine ⟨?_, inRange.withLevel?_eq, inRange.palette_eq, ?_, ?_⟩
  · rw [inRange.starts_iff, RandomSource.fitsInt64_iff]
  · intro seed
    exact validate_eq_ok_iff.mpr ⟨inRange.with_seed seed, rfl⟩
  · intro m _ host play logger arguments
    by_cases fits : RandomSource.fitsInt64 config.seed
    · rw [if_pos (RandomSource.fitsInt64_iff.mp fits)]
      simp [Host.start, inRange.create_eq, fits]
    · rw [if_neg (mt RandomSource.fitsInt64_iff.mpr fits)]
      simp [Host.start, inRange.create_eq, fits]

/-! ## The edge of the range -/

/-- The seed of a layer that sets nothing else. -/
def seedOnly? : Value → Option Int
  | .table [(.text name, .int seed)] => if name = "seed" then some seed else none
  | _ => none

private theorem eq_of_seedOnly?
    {value : Value} {seed : Int}
    (only : seedOnly? value = some seed) :
    value = .table [(.text "seed", .int seed)] := by
  unfold seedOnly? at only
  split at only
  next name read =>
    by_cases same : name = "seed"
    · simp_all
    · simp [same] at only
  next => contradiction

theorem inRange_defaults : InRange {} :=
  violation?_eq_none_iff.mp rfl

/-- An override of the seed alone leaves the other settings at their
defaults. -/
theorem load_of_seedOnly?
    {overrides : List String} {seed : Int}
    (only : (overrideLayer overrides).toOption.bind seedOnly? = some seed) :
    load none overrides = .ok { seed := seed } := by
  have inRange : InRange { seed := seed } := inRange_defaults.with_seed seed
  cases read : overrideLayer overrides with
  | error reason => simp [read, Except.toOption] at only
  | ok value =>
      have isSeed : seedOnly? value = some seed := by
        simpa [read, Except.toOption] using only
      obtain rfl := eq_of_seedOnly? isSeed
      exact inRange.load_eq_ok rfl read rfl rfl

theorem load_starts_iff_largestSeed :
    load none ["seed=9223372036854775807"] = .ok { seed := 9223372036854775807 } ∧
      Starts { seed := 9223372036854775807 } := by
  have accepted :
      load none ["seed=9223372036854775807"] = .ok { seed := 9223372036854775807 } :=
    load_of_seedOnly? (by decide +kernel)
  exact ⟨accepted, (load_starts_iff accepted).1.mpr (by decide)⟩

/-- One above the largest seed: accepted, but there is no machine for it. -/
theorem accepted_without_start :
    load none ["seed=9223372036854775808"] = .ok { seed := 9223372036854775808 } ∧
      ¬ Starts { seed := 9223372036854775808 } := by
  have accepted :
      load none ["seed=9223372036854775808"] = .ok { seed := 9223372036854775808 } :=
    load_of_seedOnly? (by decide +kernel)
  have inRange := inRange_of_load accepted
  refine ⟨accepted, ?_⟩
  rw [inRange.starts_iff]
  decide

end Config

end Chip8
