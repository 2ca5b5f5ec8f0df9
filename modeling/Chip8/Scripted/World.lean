import Chip8.Clock
import Chip8.CommandLine.Command
import Chip8.Files

/-!
# Scripted worlds

In a scripted world everything around a session is given in advance: the times
of two clocks, the typed text and the files.  What a session does to the world
is kept: its output, its log, its pictures and its events.
-/

namespace Chip8.Scripted

/-- A world that follows a script. -/
structure World where
  clock : Clock := {}
  logClock : Clock := {}
  /-- The texts that will be typed, one for each reading. -/
  typed : List String := []
  /-- The files of the working directory. -/
  files : Files := []
  /-- The paths that have been opened for reading, the latest first. -/
  opened : List String := []
  /-- What has been written to the terminal. -/
  output : String := ""
  /-- What has been written to the log. -/
  log : String := ""
  /-- The events of the session, the latest first. -/
  events : List Session.Event := []
  /-- The progress bars, the latest first. -/
  bars : List Bar := []
  /-- The saved pictures, the latest first. -/
  images : List (String × Picture) := []
  video : List Video.Event := []
  /-- How often the front-end has been released. -/
  cleanups : Nat := 0

namespace World

def now : StateM World Float :=
  modifyGet fun world =>
    let (time, clock) := world.clock.read
    (time, { world with clock := clock })

def logNow : StateM World Float :=
  modifyGet fun world =>
    let (time, clock) := world.logClock.read
    (time, { world with logClock := clock })

def sleep (seconds : Float) : StateM World Unit :=
  modify fun world => { world with clock := world.clock.sleep seconds }

def logSink : LogSink (StateM World) where
  now := logNow
  write text := modify fun world => { world with log := world.log ++ text }

def write (text : String) : StateM World Unit :=
  modify fun world => { world with output := world.output ++ text }

def nextTyped : StateM World String :=
  modifyGet fun world => (world.typed.headD "", { world with typed := world.typed.tail })

def addBar (bar : Bar) : StateM World Unit :=
  modify fun world => { world with bars := bar :: world.bars }

def addEvent (event : Session.Event) : StateM World Unit :=
  modify fun world => { world with events := event :: world.events }

def readFile (path : String) : StateM World (Except FileError (List UInt8)) :=
  modifyGet fun world =>
    (world.files.read path, { world with opened := path :: world.opened })

/-- Saves a picture under the name to which a path leads. -/
def saveImage (path : String) (picture : Picture) : StateM World (Except FileError Unit) :=
  modifyGet fun world =>
    match world.files.writable path with
    | .ok name =>
        (.ok (), { world with
          images := (name, picture) :: world.images.filter fun image => image.1 ≠ name })
    | .error error => (.error error, world)

def playVideo (options : Video.Options) (screens : List Screen) :
    StateM World (Option Video.Problem) :=
  modifyGet fun world =>
    let result := Video.play options screens [] {}
    (result.problem, { world with video := world.video ++ result.events })

/-- The world as the surroundings of the command.  Its window has no events. -/
def host : CommandLine.Host (StateM World) where
  readFile := readFile
  saveImage := saveImage
  playVideo := playVideo
  log := logSink
  now := now
  sleep := sleep
  write := write
  typed := nextTyped
  windowEvents := pure []
  showBar := addBar

end World

end Chip8.Scripted
