import Chip8.Text.Quoted

/-!
# Files of a directory

A session reads its settings and its program from files and writes pictures.
The files of the working directory are a table from names to contents.  There
are no further directories in it, so a path leads to one of its files, to the
directory itself, or nowhere.
-/

namespace Chip8

/-- Why a file could not be opened. -/
inductive FileError where
  | missing (name : String)
  /-- The path leads through a file as if it were a directory. -/
  | throughFile (name : String)
  /-- The path leads to a directory. -/
  | directory (name : String)
  deriving DecidableEq, Repr

namespace FileError

def message : FileError → String
  | missing name => "[Errno 2] No such file or directory: " ++ Text.quoted name
  | throughFile name => "[Errno 20] Not a directory: " ++ Text.quoted name
  | directory name => "[Errno 21] Is a directory: " ++ Text.quoted name

end FileError

abbrev Files := List (String × List UInt8)

namespace Files

inductive Target where
  /-- To the working directory or one above it. -/
  | directory
  /-- To a name in the working directory. -/
  | entry (name : String)
  /-- Behind a name in the working directory. -/
  | behind (name : String)
  | elsewhere
  deriving DecidableEq, Repr

/-- A step of a path that stays where it is. -/
def isStay (step : String) : Bool := step.isEmpty || step = "."

/-- Where the steps of a relative path lead, from the working directory on. -/
def follow : List String → Target
  | [] => .directory
  | step :: rest =>
      if isStay step then follow rest
      else if step = ".." then
        if rest.all fun step => isStay step || step = ".." then .directory else .elsewhere
      else if rest.isEmpty then .entry step
      else .behind step

def steps : List Char → List String
  | [] => [""]
  | '/' :: rest => "" :: steps rest
  | char :: rest =>
      match steps rest with
      | step :: later => (String.singleton char ++ step) :: later
      | [] => []

def target (path : String) : Target :=
  if path.isEmpty then .elsewhere
  else if path.startsWith "/" then
    if (steps path.toList).all fun step => isStay step || step = ".." then .directory
    else .elsewhere
  else follow (steps path.toList)

def read (files : Files) (path : String) : Except FileError (List UInt8) :=
  match target path with
  | .directory => .error (.directory path)
  | .elsewhere => .error (.missing path)
  | .entry name =>
      match files.lookup name with
      | some content => .ok content
      | none => .error (.missing path)
  | .behind name =>
      .error (if (files.lookup name).isSome then .throughFile path else .missing path)

/-- The name under which a path can be written. -/
def writable (files : Files) (path : String) : Except FileError String :=
  match target path with
  | .directory => .error (.directory path)
  | .elsewhere => .error (.missing path)
  | .entry name => .ok name
  | .behind name =>
      .error (if (files.lookup name).isSome then .throughFile path else .missing path)

end Files

end Chip8
