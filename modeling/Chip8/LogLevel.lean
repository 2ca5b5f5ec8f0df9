import Chip8.Value

/-!
# Log levels

A log line has a level, and a logger shows the lines from a certain level on.
-/

namespace Chip8

/-- How grave a log line is. -/
inductive LogLevel where
  | debug
  | info
  | warning
  | error
  | critical
  deriving DecidableEq, Repr

namespace LogLevel

/-- The levels with their names, from the least grave on. -/
def named : List (String × LogLevel) :=
  [("DEBUG", debug), ("INFO", info), ("WARNING", warning), ("ERROR", error),
    ("CRITICAL", critical)]

def names : List String := named.map Prod.fst

def find? (name : String) : Option LogLevel := named.lookup name

def rank : LogLevel → Nat
  | debug => 0
  | info => 1
  | warning => 2
  | error => 3
  | critical => 4

def name : LogLevel → String
  | debug => "DEBUG"
  | info => "INFO"
  | warning => "WARNING"
  | error => "ERROR"
  | critical => "CRITICAL"

def unknownMessage (name : String) : String :=
  "Unknown log level '" ++ name ++ "'. Available: " ++
    (Value.list (names.map .text)).literal

end LogLevel

end Chip8
