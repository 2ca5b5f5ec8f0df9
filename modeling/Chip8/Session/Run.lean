import Chip8.Config.Basic
import Chip8.Frontend.Basic
import Chip8.Machine.Cycle
import Chip8.Session.FrameSupply
import Chip8.Session.Stats

/-!
# Running a session

A session runs a machine frame by frame: it reads the held keys, counts the
timers down, executes the cycles of the frame and draws the display.  A fault
is reported; then the session ends or the faulting instruction is stepped
over, as the settings say.  Between two frames the session sleeps so that the
frames follow each other at the rate of the settings.

The devices around a session are actions of a monad.  A failure of a device
ends the session, and the front-end is released on every way out.
-/

namespace Chip8

/-- What surrounds a session. -/
structure Devices (m : Type → Type) where
  frontend : Frontend m
  now : m Float
  /-- Waits for a number of seconds. -/
  sleep : Float → m Unit
  /-- Tells the observers about an event. -/
  notify : Session.Event → m (Except Failure Unit)

/-- A machine with the counters of its session. -/
structure Session where
  machine : Machine
  stats : Session.Stats := {}

namespace Session

/-- How a frame leaves a session. -/
inductive Course where
  | goesOn
  | halted
  | failed (failure : Failure)
  deriving DecidableEq, Repr

inductive Ending where
  | complete
  | stopped
  | halted
  | failed (failure : Failure)
  /-- The run was broken off because it took too long. -/
  | unfinished
  deriving DecidableEq, Repr

def Ending.failure? : Ending → Option Failure
  | failed failure => some failure
  | _ => none

variable {m : Type → Type} [Monad m]

/-- Runs cycles with the given keys, until a fault or a failure ends the
session. -/
def runCycles (notify : Event → m (Except Failure Unit)) (haltOnFault : Bool) (keys : KeySet) :
    Nat → Session → m (Session × Course)
  | 0, session => return (session, .goesOn)
  | count + 1, session =>
      match session.machine.cycle keys with
      | .done machine =>
          runCycles notify haltOnFault keys count
            { machine := machine, stats := session.stats.countInstruction }
      | .failure failure machine => return ({ session with machine := machine }, .failed failure)
      | .fault fault machine => do
          let recorded : Session := { machine := machine, stats := session.stats.record fault }
          match ← notify (.fault recorded.stats.frames fault) with
          | .error failure => return (recorded, .failed failure)
          | .ok () =>
              if haltOnFault then
                return ({ recorded with stats := { recorded.stats with halted := true } }, .halted)
              else
                runCycles notify haltOnFault keys count
                  { recorded with machine := machine.stepOver }

/-- Runs the timers and the cycles of one frame. -/
def stepFrame (notify : Event → m (Except Failure Unit)) (config : Config) (keys : KeySet)
    (session : Session) : m (Session × Course) :=
  runCycles notify config.haltOnFault keys config.instructionsPerFrame.toNat
    { session with machine := session.machine.countDown }

/-- Draws the frame that has just run and reports it. -/
def finishFrame (devices : Devices m) (start : Float) (session : Session) :
    m (Session × Except Failure Unit) := do
  match ← devices.frontend.draw session.machine.display with
  | .error failure => return (session, .error failure)
  | .ok () =>
      let elapsed := (← devices.now) - start
      let stats := { session.stats with frames := session.stats.frames + 1, elapsed := elapsed }
      let reported ← devices.notify (.frame stats.frames (stats.metrics session.machine.display))
      return ({ session with stats := stats }, reported)

/-- Waits until a frame has had its duration, and gives the time after that. -/
def pace (devices : Devices m) (duration lastEnd : Float) : m Float := do
  if duration != 0 then
    let remaining := duration - ((← devices.now) - lastEnd)
    if remaining > 0 then
      devices.sleep remaining
  devices.now

def runFrame (devices : Devices m) (config : Config) (start : Float) (keys : KeySet)
    (session : Session) : m (Session × Course) := do
  match ← session.stepFrame devices.notify config keys with
  | (stepped, .failed failure) => return (stepped, .failed failure)
  | (stepped, course) =>
      match ← stepped.finishFrame devices start with
      | (finished, .error failure) => return (finished, .failed failure)
      | (finished, .ok ()) => return (finished, course)

/-- Runs frames until the supply is used up or something else ends the
session.  The first argument bounds the number of frames. -/
def runFrames (devices : Devices m) (config : Config) (duration start : Float) :
    Nat → FrameSupply → Float → Session → m (Session × FrameSupply × Ending)
  | 0, supply, _, session => return (session, supply, .unfinished)
  | patience + 1, supply, lastEnd, session =>
      match supply.next with
      | (none, supply) => return (session, supply, .complete)
      | (some _, supply) => do
          match ← devices.frontend.readKeys with
          | .error failure => return (session, supply, .failed failure)
          | .ok none => return (session, supply, .stopped)
          | .ok (some keys) =>
              match ← session.runFrame devices config start keys with
              | (session, .failed failure) => return (session, supply, .failed failure)
              | (session, .halted) => return (session, supply, .halted)
              | (session, .goesOn) =>
                  let frameEnd ← pace devices duration lastEnd
                  runFrames devices config duration start patience supply frameEnd session

/-- The duration of a frame at a rate, which is zero without a rate. -/
def frameDuration (rate : Int) : Except Failure Float :=
  if 0 < rate then
    let number := Float.ofInt rate
    if number.isInf then .error (.numberTooLarge rate) else .ok (1 / number)
  else .ok 0

/-- What is left of a run. -/
structure Result where
  session : Session
  /-- The progress bar, if one was opened. -/
  bar : Option Bar := none
  ending : Ending

/-- Runs frames on devices that are set up, and releases them. -/
def runAndRelease (devices : Devices m) (config : Config) (duration start : Float)
    (patience : Nat) (supply : FrameSupply) (session : Session) : m Result := do
  let (session, supply, ending) ←
    runFrames devices config duration start patience supply start session
  devices.frontend.cleanup
  let elapsed := (← devices.now) - start
  return {
    session := { session with stats := { session.stats with elapsed := elapsed } }
    bar := supply.close.bar
    ending := ending }

/-- Tells the observers that a run has ended, unless a failure ended it. -/
def Result.report (result : Result) (notify : Event → m (Except Failure Unit)) : m Result := do
  match result.ending with
  | .failed _ => return result
  | _ =>
      let session := result.session
      match ← notify (.ended (session.stats.finalMetrics session.machine.display)) with
      | .ok () => return result
      | .error failure => return { result with ending := .failed failure }

/-- The number of frames after which a run is certainly over. -/
def patienceFor (limit : Option Int) (patience : Nat) : Nat :=
  match limit with
  | some frames => frames.toNat + 1
  | none => patience

def supplyFor (limit : Option Int) (progress : Bool) : FrameSupply :=
  match limit with
  | some frames => if progress then .tracked frames none [] else .plain limit
  | none => .plain none

/-- Runs a session until the front-end asks to stop, the limit is reached or
something else ends it.  With `progress` and a limit, a bar tracks the frames.
A run without a limit is broken off after `patience` frames. -/
def run (devices : Devices m) (config : Config) (limit : Option Int) (progress : Bool)
    (patience : Nat) (session : Session) : m Result := do
  match frameDuration config.fps with
  | .error failure => return { session := session, ending := .failed failure }
  | .ok duration =>
      match ← devices.notify (.started config.entries) with
      | .error failure => return { session := session, ending := .failed failure }
      | .ok () =>
          let start ← devices.now
          match ← devices.frontend.setup with
          | .error failure => return { session := session, ending := .failed failure }
          | .ok () =>
              let result ← session.runAndRelease devices config duration start
                (patienceFor limit patience) (supplyFor limit progress)
              result.report devices.notify

end Session

end Chip8
