import Chip8.Failure
import Chip8.Session.Event

/-!
# Running statistics

Of each tracked metric only totals are kept, so the size of the statistics
does not grow with the length of a session.
-/

namespace Chip8

/-- The totals of one metric. -/
structure Tally where
  sum : Float
  least : Float
  greatest : Float
  last : Float
  count : Nat

namespace Tally

def first (value : Float) : Tally :=
  { sum := value, least := value, greatest := value, last := value, count := 1 }

def add (tally : Tally) (value : Float) : Tally :=
  { sum := tally.sum + value
    least := if value < tally.least then value else tally.least
    greatest := if value > tally.greatest then value else tally.greatest
    last := value
    count := tally.count + 1 }

def mean (tally : Tally) : Float := tally.sum / Float.ofNat tally.count

end Tally

structure Statistics where
  keys : List String := ["instructions_per_second", "lit_pixels"]
  /-- The totals of the metrics that have had a value. -/
  tallies : List (String × Tally) := []
  frames : Nat := 0
  faults : Nat := 0
  /-- The last fault, with the number of frames before it. -/
  lastFault : Option (Int × Fault) := none

namespace Statistics

/-- Statistics of the given metrics, or of the usual ones if none are given. -/
def tracking (keys : List String) : Statistics :=
  if keys.isEmpty then {} else { keys := keys }

/-- Adds a value to the totals of a metric. -/
def tally (statistics : Statistics) (key : String) (value : Float) : Statistics :=
  { statistics with
    tallies := match statistics.tallies.lookup key with
      | none => statistics.tallies ++ [(key, .first value)]
      | some _ => statistics.tallies.map fun entry =>
          if entry.1 = key then (key, entry.2.add value) else entry }

/-- Adds the value of a metric if it is a number. -/
def addMetric (statistics : Statistics) (metrics : Metrics) (key : String) :
    Except Failure Statistics :=
  match metrics.lookup key with
  | none => .ok statistics
  | some value =>
      match value, value.number? with
      | _, none => .ok statistics
      | .int integer, some number =>
          if number.isInf then .error (.numberTooLarge integer)
          else .ok (statistics.tally key number)
      | _, some number => .ok (statistics.tally key number)

def addFrame (statistics : Statistics) (metrics : Metrics) : Except Failure Statistics :=
  statistics.keys.foldlM (fun statistics key => statistics.addMetric metrics key)
    { statistics with frames := statistics.frames + 1 }

def addFault (statistics : Statistics) (frames : Int) (fault : Fault) : Statistics :=
  { statistics with faults := statistics.faults + 1, lastFault := some (frames, fault) }

def observe (statistics : Statistics) : Session.Event → Except Failure Statistics
  | .frame _ metrics => statistics.addFrame metrics
  | .fault frames fault => .ok (statistics.addFault frames fault)
  | .started _ | .ended _ => .ok statistics

end Statistics

end Chip8
