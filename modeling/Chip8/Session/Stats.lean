import Chip8.Machine.Basic
import Chip8.Session.Event

/-!
# The counters of a session
-/

namespace Chip8.Session

/-- What a session counts. -/
structure Stats where
  frames : Nat := 0
  /-- The number of cycles without a fault. -/
  instructions : Nat := 0
  faultCount : Nat := 0
  firstFault : Option Fault := none
  lastFault : Option Fault := none
  elapsed : Float := 0
  /-- Whether a fault has ended the session. -/
  halted : Bool := false

namespace Stats

def instructionsPerSecond (stats : Stats) : Float :=
  if stats.elapsed > 0 then Float.ofNat stats.instructions / stats.elapsed else 0

def countInstruction (stats : Stats) : Stats :=
  { stats with instructions := stats.instructions + 1 }

def record (stats : Stats) (fault : Fault) : Stats :=
  { stats with
    faultCount := stats.faultCount + 1
    firstFault := some (stats.firstFault.getD fault)
    lastFault := some fault }

def metrics (stats : Stats) (display : Display) : Metrics :=
  [("instructions", .int stats.instructions),
    ("instructions_per_second", .real stats.instructionsPerSecond),
    ("lit_pixels", .int display.size),
    ("faults", .int stats.faultCount)]

def finalMetrics (stats : Stats) (display : Display) : Metrics :=
  stats.metrics display ++ [("frames", .int stats.frames)]

end Stats

end Chip8.Session
