import Chip8.LogLevel
import Chip8.Palette

/-!
# Settings

A session has nine settings.  Each has a default, and most have a range.
-/

namespace Chip8

/-- The settings of a session. -/
structure Config where
  /-- The number of cycles in a frame. -/
  instructionsPerFrame : Int := 16
  /-- The number of frames in a second; without a limit if zero. -/
  fps : Int := 60
  /-- The size of a cell in picture points. -/
  scale : Int := 16
  colorScheme : String := "classic"
  /-- The seed of the random bytes. -/
  seed : Int := 0
  /-- The greatest depth of the call stack. -/
  stackLimit : Option Int := none
  /-- Whether a fault ends the session. -/
  haltOnFault : Bool := true
  /-- The name of the least level that is logged. -/
  logLevel : String := "INFO"
  /-- The number of frames between two reports; none if zero. -/
  logInterval : Int := 600
  deriving DecidableEq, Repr

namespace Config

inductive Violation where
  | instructionsPerFrame (value : Int)
  | fps (value : Int)
  | scale (value : Int)
  | colorScheme (name : String)
  | stackLimit (value : Int)
  | logLevel (name : String)
  | logInterval (value : Int)
  deriving DecidableEq, Repr

namespace Violation

def message : Violation → String
  | instructionsPerFrame value =>
      Numeral.worded value ("instructions_per_frame must be at least 1, got " ++ ·)
  | fps value => Numeral.worded value ("fps must be non-negative, got " ++ ·)
  | scale value => Numeral.worded value ("scale must be at least 1, got " ++ ·)
  | colorScheme name => Palette.unknownMessage name
  | stackLimit value => Numeral.worded value ("stack_limit must be positive or null, got " ++ ·)
  | logLevel name => LogLevel.unknownMessage name
  | logInterval value => Numeral.worded value ("log_interval must be non-negative, got " ++ ·)

end Violation

def violation? (config : Config) : Option Violation :=
  if config.instructionsPerFrame < 1 then
    some (.instructionsPerFrame config.instructionsPerFrame)
  else if config.fps < 0 then some (.fps config.fps)
  else if config.scale < 1 then some (.scale config.scale)
  else if (Palette.find? config.colorScheme).isNone then
    some (.colorScheme config.colorScheme)
  else
    match config.stackLimit.filter (· < 1) with
    | some limit => some (.stackLimit limit)
    | none =>
        if (LogLevel.find? config.logLevel).isNone then some (.logLevel config.logLevel)
        else if config.logInterval < 0 then some (.logInterval config.logInterval)
        else none

/-- The settings, if all of them are in range. -/
def validate (config : Config) : Except Violation Config :=
  match config.violation? with
  | some violation => .error violation
  | none => .ok config

/-- The settings with their names, in their fixed order. -/
def entries (config : Config) : List (String × Value) :=
  [("instructions_per_frame", .int config.instructionsPerFrame),
    ("fps", .int config.fps),
    ("scale", .int config.scale),
    ("color_scheme", .text config.colorScheme),
    ("seed", .int config.seed),
    ("stack_limit", (config.stackLimit.map Value.int).getD .null),
    ("halt_on_fault", .bool config.haltOnFault),
    ("log_level", .text config.logLevel),
    ("log_interval", .int config.logInterval)]

def names : List String := (entries {}).map Prod.fst

end Config

end Chip8
