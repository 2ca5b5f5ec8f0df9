import Chip8.CommandLine.Arguments
import Chip8.Config.Load
import Chip8.ImageFile.Name
import Chip8.Log
import Chip8.Session.Headless
import Chip8.Video

/-!
# The command

The command loads settings and a program and runs a session.  A headless
session can leave a picture of its last frame and a video of all its frames.

The exit code is 2 if the settings or the number of frames are wrong, 1 if the
program cannot be loaded or a fault ends the session, and 0 otherwise.  What goes
wrong in the session itself is left to the surroundings.
-/

namespace Chip8.CommandLine

/-- What the command needs from its surroundings. -/
structure Host (m : Type → Type) where
  /-- How a settings file and overrides become one layer. -/
  layering : Config.Layering := Config.readLayers
  readFile : String → m (Except FileError (List UInt8))
  saveImage : String → Picture → m (Except FileError Unit)
  playVideo : Video.Options → List Screen → m (Option Video.Problem)
  log : LogSink m
  now : m Float
  /-- Waits for a number of seconds. -/
  sleep : Float → m Unit
  write : String → m Unit
  /-- The text typed since the last reading. -/
  typed : m String
  /-- What has happened to the window since the last reading. -/
  windowEvents : m (List Window.Event)
  /-- Takes note of a progress bar. -/
  showBar : Bar → m Unit

/-- What can go wrong without a report of the command. -/
inductive Problem where
  | config (error : Config.LoadError)
  | machine (error : Machine.BuildError)
  | failure (failure : Failure)
  | extension (extension : String)
  | file (error : FileError)
  | paint (error : PaintError)
  | video (problem : Video.Problem)

inductive Outcome where
  | exit (code : Nat)
  /-- With a report about the words of the command. -/
  | misuse (misuse : Misuse)
  /-- With a problem that it leaves to its surroundings. -/
  | problem (problem : Problem)

/-- What is done with a machine that has its program. -/
abbrev Play (m : Type → Type) := Logger → Arguments → Config → Machine → m Outcome

/-- The number of frames of a headless session if nothing else is asked for. -/
def usualFrames : Int := 600

/-- The number of frames after which a session without a limit is broken
off. -/
def patience : Nat := Nat.pow 2 62

namespace Arguments

/-- The settings of the command, the level of the log last. -/
def allOverrides (arguments : Arguments) : List String :=
  arguments.overrides ++ (arguments.logLevel.map ("log_level=" ++ ·)).toList

/-- A name that is given and not empty. -/
def given (name : Option String) : Option String := name.filter fun name => !name.isEmpty

/-- Whether the session is headless.  Pictures and videos imply it. -/
def isHeadless (arguments : Arguments) : Bool :=
  arguments.interface = .headless || (given arguments.screenshot).isSome ||
    (given arguments.record).isSome

end Arguments

variable {m : Type → Type} [Monad m]

namespace Host

def loadConfig (host : Host m) (arguments : Arguments) : m (Except Config.LoadError Config) := do
  match arguments.config with
  | none => return Config.loadBy host.layering none arguments.allOverrides
  | some path =>
      return Config.loadBy host.layering (some (path, ← host.readFile path))
        arguments.allOverrides

def newLogger (host : Host m) (level : LogLevel) : m Logger := do
  return { level := level, colored := host.log.colored, startTime := ← host.log.now }

/-- The machine with the program of a file, or a report. -/
def loadProgram (host : Host m) (machine : Machine) (path : String) :
    m (Except String Machine) := do
  match ← host.readFile path with
  | .error error => return .error error.message
  | .ok program => return (machine.load program).mapError Machine.LoadError.message

/-- The devices of a session with the given front-end. -/
def devices (host : Host m) (logger : Logger) (interval : Int)
    (frontend : Frontend (StateT Desk m)) : Devices (StateT Desk m) where
  frontend := frontend
  now := StateT.lift host.now
  sleep seconds := StateT.lift (host.sleep seconds)
  notify event := do
    match ← StateT.lift (logger.observe host.log interval event) with
    | .error failure => return .error failure
    | .ok () => Desk.count event

def terminal (host : Host m) : Frontend (StateT Desk m) :=
  Terminal.frontend (fun text => StateT.lift (host.write text)) (StateT.lift host.typed)

def window (host : Host m) : Frontend (StateT Desk m) :=
  Window.frontend (StateT.lift host.windowEvents)

def runSession (host : Host m) (logger : Logger) (arguments : Arguments) (config : Config)
    (machine : Machine) : StateT Desk m Session.Result := do
  let devices := host.devices logger config.logInterval
  if arguments.isHeadless then
    Session.runHeadless (devices Headless.frontend) config (arguments.frames.getD usualFrames)
      (fun _ => ∅) true machine
  else
    match arguments.interface with
    | .graphical =>
        set ({ scale := config.scale
               palette := (Palette.find? config.colorScheme).getD .classic } : Window)
        Session.run (devices host.window) config arguments.frames false patience
          { machine := machine }
    | _ =>
        Session.run (devices host.terminal) config arguments.frames false patience
          { machine := machine }

def saveScreenshot (host : Host m) (logger : Logger) (config : Config) (display : Display)
    (path : String) : m (Except Problem Unit) := do
  match (Screen.cells display).paintWith config.scale config.colorScheme,
      ImageFile.unknownExtension? path with
  | .error error, _ => return .error (.paint error)
  | .ok _, some extension => return .error (.extension extension)
  | .ok picture, none =>
      match ← host.saveImage path picture with
      | .error error => return .error (.file error)
      | .ok () =>
          logger.info host.log ("Screenshot saved: " ++ path)
          return .ok ()

/-- The rate of a video of a session.  A session without a rate has the usual
one. -/
def videoRate (config : Config) : Except Failure Float :=
  let rate := if config.fps = 0 then 60 else config.fps
  let number := Float.ofInt rate
  if number.isInf then .error (.numberTooLarge rate) else .ok number

def saveVideo (host : Host m) (logger : Logger) (config : Config) (frames : List Display)
    (path : String) : m (Except Problem Unit) := do
  match videoRate config with
  | .error failure => return .error (.failure failure)
  | .ok fps =>
      let options : Video.Options :=
        { filename := some path, fps := fps, scale := config.scale
          colorScheme := config.colorScheme }
      match ← host.playVideo options (frames.map Screen.cells) with
      | some problem => return .error (.video problem)
      | none =>
          logger.info host.log ("Video saved: " ++ path ++ " (" ++
            Numeral.text frames.length ++ " frames)")
          return .ok ()

/-- Saves what the arguments ask for: first the picture, then the video. -/
def saveFrames (host : Host m) (logger : Logger) (arguments : Arguments) (config : Config)
    (frames : List Display) : m (Except Problem Unit) := do
  let pictured ← match Arguments.given arguments.screenshot, frames.getLast? with
    | some path, some display => host.saveScreenshot logger config display path
    | _, _ => pure (.ok ())
  match pictured, Arguments.given arguments.record, frames with
  | .ok (), some path, _ :: _ => host.saveVideo logger config frames path
  | _, _, _ => return pictured

/-- Runs a session with a loaded program and saves what is asked for. -/
def play (host : Host m) (logger : Logger) (arguments : Arguments) (config : Config)
    (machine : Machine) : m Outcome := do
  let (result, desk) ← (host.runSession logger arguments config machine).run {}
  if let some bar := result.bar then
    host.showBar bar
  match result.ending.failure? with
  | some failure => return .problem (.failure failure)
  | none =>
      match ← host.saveFrames logger arguments config desk.headless.frames with
      | .error problem => return .problem problem
      | .ok () =>
          return .exit (if 0 < desk.statistics.faults && config.haltOnFault then 1 else 0)

/-- Loads the program into a machine and plays it. -/
def launch (host : Host m) (play : Play m) (logger : Logger) (arguments : Arguments)
    (config : Config) (machine : Machine) : m Outcome := do
  match ← host.loadProgram machine arguments.rom with
  | .error report =>
      logger.error host.log ("Could not load ROM: " ++ report)
      return .exit 1
  | .ok machine =>
      logger.info host.log ("Loaded: " ++ arguments.rom)
      play logger arguments config machine

/-- Builds the machine of the settings and launches it. -/
def start (host : Host m) (play : Play m) (logger : Logger) (arguments : Arguments)
    (config : Config) : m Outcome :=
  match Machine.create (RandomSource.seeded config.seed RandomSource.usualBlockSize)
      config.stackLimit with
  | .error error => return .problem (.machine error)
  | .ok machine => host.launch play logger arguments config machine

/-- Does what the arguments ask for.  The session can be given by another
action. -/
def execute (host : Host m) (arguments : Arguments) (play : Play m := host.play) :
    m Outcome := do
  match ← host.loadConfig arguments with
  | .error error =>
      if error.isReported then
        let logger ← host.newLogger .info
        logger.error host.log ("Invalid configuration: " ++ error.message)
        return .exit 2
      else return .problem (.config error)
  | .ok config =>
      let logger ← host.newLogger ((LogLevel.find? config.logLevel).getD .info)
      match arguments.frames.filter (· < 1) with
      | some frames =>
          logger.error host.log ("--frames must be at least 1, got " ++ Numeral.text frames)
          return .exit 2
      | none => host.start play logger arguments config

/-- Does what the words of a command ask for. -/
def command (host : Host m) (words : List String) (play : Play m := host.play) :
    m Outcome := do
  match parse words with
  | .error misuse => return .misuse misuse
  | .ok .help =>
      host.write helpText
      return .exit 0
  | .ok (.session arguments) => host.execute arguments play

end Host

end Chip8.CommandLine
