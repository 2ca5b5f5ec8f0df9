import Chip8.Failure
import Chip8.LogLevel
import Chip8.Session.Event
import Chip8.Text.Column
import Chip8.Text.UpperCase

/-!
# The log

A logger writes one line per message: the time since its creation, the level,
its name and the message.  Messages below the level of the logger are dropped.
A message may carry any level name; a name that is no level ranks as `INFO`.

A report is worded before it is looked whether it is shown.  So an integer that
cannot be written makes a report fail at any level.
-/

namespace Chip8

/-- The text of a metric.  Numbers with a point have two decimal places, and
small ones are written in scientific notation. -/
def metricText : Value → String
  | .real value =>
      if value.abs < 0.01 && value != 0 then Decimal.scientificText 2 value
      else Decimal.fixedText 2 value
  | value => value.display

namespace LogLevel

/-- The sequence that switches a terminal to the colour of a level. -/
def colorSequence : LogLevel → String
  | debug => "\x1b[36m"
  | info => "\x1b[32m"
  | warning => "\x1b[33m"
  | error => "\x1b[31m"
  | critical => "\x1b[35m"

/-- The sequence that switches a terminal back to its usual colour. -/
def resetSequence : String := "\x1b[0m"

/-- The level with a name in upper or lower case. -/
def ofText? (name : String) : Option LogLevel := find? (Text.upper name)

end LogLevel

structure Logger where
  name : String := "chipvm"
  /-- The least level that is shown. -/
  level : LogLevel := .info
  colored : Bool := false
  /-- Whether lines start with the time. -/
  timestamps : Bool := true
  startTime : Float := 0

/-- A frame that has been reported in the log. -/
structure LogEntry where
  frame : Int
  time : Float
  metrics : Metrics

/-- What a logger needs: the time, and a place to write to. -/
structure LogSink (m : Type → Type) where
  colored : Bool := false
  now : m Float
  write : String → m Unit

namespace Logger

def withLevel? (logger : Logger) (name : String) : Option Logger :=
  (LogLevel.ofText? name).map fun level => { logger with level := level }

/-- The number of frames between two reports if nothing else is asked for. -/
def usualInterval : Int := 600

def shows (logger : Logger) (level : String) : Bool :=
  logger.level.rank ≤ ((LogLevel.ofText? level).getD .info).rank

def levelColumn (logger : Logger) (level : String) : String :=
  let column := "[" ++ Text.rightAligned 8 level ++ "]"
  if logger.colored then
    ((LogLevel.ofText? level).map LogLevel.colorSequence).getD "" ++ column ++
      LogLevel.resetSequence
  else column

/-- The column of the time since the creation of the logger. -/
def timeColumn (elapsed : Float) : String :=
  "[" ++ Text.rightAligned 8 (Decimal.fixedText 2 elapsed) ++ "s]"

def line (logger : Logger) (time level message : String) : String :=
  time ++ logger.levelColumn level ++ "[" ++ logger.name ++ "] " ++ message ++ "\n"

def frameReport? (frame : Int) (metrics : Metrics) : Option String :=
  if Numeral.isWritable frame && metrics.all (·.2.isWritable) then
    some ("Frame " ++ Text.rightAligned 6 (Numeral.text frame) ++ " | " ++
      " | ".intercalate (metrics.map fun metric => metric.1 ++ "=" ++ metricText metric.2))
  else none

def faultReport? (frames : Nat) (fault : Fault) : Option String :=
  if Numeral.isWritable frames then
    some ("Frame " ++ Numeral.text frames ++ ": " ++ fault.kind.name ++ ": " ++ fault.text)
  else none

/-- A line across the log. -/
def rule : String := .ofList (List.replicate 60 '=')

/-- Whether a frame is reported: every `interval` frames, and never if the
interval is not positive. -/
def isDue (frame interval : Int) : Bool :=
  0 < interval && frame % interval == 0

variable {m : Type → Type} [Monad m]

/-- Writes a message, unless its level is below that of the logger.  The time
is read only for lines that show it. -/
def log (logger : Logger) (sink : LogSink m) (level message : String) : m Unit := do
  if logger.shows level then
    if logger.timestamps then
      let now ← sink.now
      sink.write (logger.line (timeColumn (now - logger.startTime)) level message)
    else sink.write (logger.line "" level message)

def info (logger : Logger) (sink : LogSink m) (message : String) : m Unit :=
  logger.log sink LogLevel.info.name message

def error (logger : Logger) (sink : LogSink m) (message : String) : m Unit :=
  logger.log sink LogLevel.error.name message

/-- Writes one line for each of some named values and a rule below them, up to
the first value that cannot be written. -/
def listValues (logger : Logger) (sink : LogSink m) (text : Value → String) :
    List (String × Value) → m (Except Failure Unit)
  | [] => do
      logger.info sink rule
      return .ok ()
  | (name, value) :: rest =>
      if value.isWritable then do
        logger.info sink ("  " ++ name ++ ": " ++ text value)
        listValues logger sink text rest
      else return .error .unwritable

def reportStart (logger : Logger) (sink : LogSink m) (settings : List (String × Value)) :
    m (Except Failure Unit) := do
  logger.info sink rule
  logger.info sink "Starting emulator with configuration:"
  logger.listValues sink Value.display settings

def reportFrame (logger : Logger) (sink : LogSink m) (frame : Int) (metrics : Metrics)
    (interval : Int) : m (Except Failure (Option LogEntry)) := do
  if isDue frame interval then
    match frameReport? frame metrics with
    | some report =>
        logger.info sink report
        return .ok (some { frame := frame, time := ← sink.now, metrics := metrics })
    | none => return .error .unwritable
  else return .ok none

def reportEnd (logger : Logger) (sink : LogSink m) (metrics : Metrics) :
    m (Except Failure Unit) := do
  let elapsed := (← sink.now) - logger.startTime
  logger.info sink rule
  logger.info sink ("Emulation stopped after " ++ Decimal.fixedText 1 elapsed ++ "s")
  logger.listValues sink metricText metrics

def observe (logger : Logger) (sink : LogSink m) (interval : Int) :
    Session.Event → m (Except Failure Unit)
  | .started settings => logger.reportStart sink settings
  | .frame number metrics => do
      return (← logger.reportFrame sink number metrics interval).map fun _ => ()
  | .fault frames fault =>
      match faultReport? frames fault with
      | some report => do
          logger.error sink report
          return .ok ()
      | none => return .error .unwritable
  | .ended metrics => logger.reportEnd sink metrics

end Logger

end Chip8
