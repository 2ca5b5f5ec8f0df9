import Chip8.CommandLine.Command
import Chip8.ImageFile.Png

/-!
# The command as a program

The command runs on the files, the clock and the terminal of the computer.
Text is read from the keyboard while a session runs, as far as the terminal
delivers it.  Pictures are saved as PNG; windows and videos are not available.
-/

namespace Chip8.Computer

open CommandLine

def fileErrorOf (path : String) : IO.Error → FileError
  | .inappropriateType .. => .directory path
  | _ => .missing path

def readFile (path : String) : IO (Except FileError (List UInt8)) := do
  try
    return .ok (← IO.FS.readBinFile path).toList
  catch error => return .error (fileErrorOf path error)

def saveImage (path : String) (picture : Picture) : IO (Except FileError Unit) := do
  if (ImageFile.extension path).toLower ≠ ".png" then
    throw (IO.userError ("pictures can only be saved as PNG: " ++ path))
  try
    IO.FS.writeBinFile path (Png.encode picture)
    return .ok ()
  catch error => return .error (fileErrorOf path error)

def now : IO Float := do
  return Float.ofNat (← IO.monoNanosNow) / 1000000000

def sleep (seconds : Float) : IO Unit := IO.sleep (seconds * 1000).toUInt32

def write (stream : IO.FS.Stream) (text : String) : IO Unit := do
  stream.putStr text
  stream.flush

/-- Collects what is typed.  Each byte is one character. -/
partial def listen (stream : IO.FS.Stream) (pending : IO.Ref String) : IO Unit := do
  let bytes ← stream.read 64
  if !bytes.isEmpty then
    pending.modify (· ++ .ofList (bytes.toList.map fun byte => Char.ofNat byte.toNat))
    listen stream pending

def showBar (stream : IO.FS.Stream) (bar : Bar) : IO Unit :=
  write stream (bar.description ++ ": " ++ Numeral.text bar.updates ++ "/" ++
    Numeral.text bar.total ++ "\n")

def host (output errors : IO.FS.Stream) (colored : Bool) (pending : IO.Ref String) :
    Host IO where
  readFile := readFile
  saveImage := saveImage
  playVideo _ _ := throw (IO.userError "videos are not available")
  log := { colored := colored, now := now, write := write errors }
  now := now
  sleep := sleep
  write := write output
  typed := pending.modifyGet fun text => (text, "")
  windowEvents := throw (IO.userError "windows are not available")
  showBar := showBar errors

/-- The report about a problem that the command leaves to its surroundings. -/
def problemText : Problem → String
  | .config error => error.message
  | .machine (.stackLimit limit) => (Machine.BuildError.stackLimit limit).message
  | .machine (.random error) => error.message
  | .failure failure => failure.message
  | .extension extension => ImageFile.unknownMessage extension
  | .file error => error.message
  | .paint error => error.message
  | .video (.paint error) => error.message
  | .video .noRate => "a video needs a rate"
  | .video (.failure failure) => failure.message

end Chip8.Computer

/-- Runs the command with the given words and gives its exit code. -/
def main (words : List String) : IO UInt32 := do
  let errors ← IO.getStderr
  let input ← IO.getStdin
  let pending ← IO.mkRef ""
  if ← input.isTty then
    let _ ← IO.asTask (Chip8.Computer.listen input pending) .dedicated
  let host := Chip8.Computer.host (← IO.getStdout) errors (← errors.isTty) pending
  match ← host.command words with
  | .exit code => return code.toUInt32
  | .misuse misuse =>
      Chip8.Computer.write errors (Chip8.CommandLine.linesText
        (Chip8.CommandLine.usageLines ++ [Chip8.CommandLine.misuseText misuse]))
      return 2
  | .problem problem =>
      Chip8.Computer.write errors (Chip8.Computer.problemText problem ++ "\n")
      return 1
