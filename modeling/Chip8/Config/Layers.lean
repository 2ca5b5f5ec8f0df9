import Chip8.Config.Basic
import Chip8.Yaml.Document

/-!
# Layers of settings

Settings come in layers: defaults, a file, overrides.  A later layer wins over
an earlier one.  Tables are merged key by key, and the placeholder for a
missing value leaves the earlier value alone.
-/

namespace Chip8.Config

/-- The entries of a table. -/
abbrev Layer := List (Value × Value)

/-- A step from a container to a value in it. -/
inductive Step where
  /-- To the value of a key. -/
  | key (text : String)
  /-- To an item of a list. -/
  | item (position : Nat)
  deriving DecidableEq, Repr

/-- The text of the steps from the outermost table to a value. -/
def fullKey (steps : List Step) : String :=
  steps.foldl
    (fun text step =>
      match step with
      | .key key => if text.isEmpty then key else text ++ "." ++ key
      | .item position => text ++ "[" ++ Numeral.text position ++ "]")
    ""

/-- A message with the place that it is about and the kind of the container
there. -/
def located (message : String) (steps : List Step) (container : String) : String :=
  message ++ "\n    full_key: " ++ fullKey steps ++ "\n    object_type=" ++ container

/-- Why layers could not be merged. -/
inductive MergeError where
  | containers
  /-- A key path leads through a missing value. -/
  | missing
  /-- A key path ends in a list, and its last part is no number. -/
  | listKey (text : String)
  /-- A key path leads through a list, and its part is no number. -/
  | listStep (text : String)
  /-- A key path leads into a list, and its number is too large. -/
  | listRange
  /-- A key path has no parts. -/
  | noKey
  deriving DecidableEq, Repr

/-- The placeholder for a missing value. -/
def isMissing : Value → Bool
  | .text text => text == "???"
  | _ => false

mutual

/-- The value that results where a value of a later layer meets an earlier
one. -/
def mergeValue (earlier : Value) : Value → Except MergeError Value
  | .table entries =>
      match earlier with
      | .table base => (mergeEntries base entries).map .table
      | .list _ => .error .containers
      | _ => .ok (.table entries)
  | .list items =>
      match earlier with
      | .table _ => .error .containers
      | _ => .ok (.list items)
  | later => .ok (if isMissing later then earlier else later)

/-- The entries of a layer merged into those of an earlier one. -/
def mergeEntries (base : Layer) : Layer → Except MergeError Layer
  | [] => .ok base
  | (key, value) :: rest =>
      match Value.find? base key with
      | none => mergeEntries (Value.store base key value) rest
      | some earlier =>
          match mergeValue earlier value with
          | .error error => .error error
          | .ok merged => mergeEntries (Value.store base key merged) rest

end

/-! ## Overrides -/

/-- An override: the path of a key and a value. -/
structure Override where
  path : List String
  value : Value

/-- The parts of a key path behind its first part.  A part follows a dot or
stands in square brackets; other characters between parts are passed over. -/
def pathParts : Nat → List Char → List String
  | 0, _ => []
  | _, [] => []
  | fuel + 1, '.' :: rest =>
      let isInside := fun char => char ≠ '.' && char ≠ '['
      .ofList (rest.takeWhile isInside) :: pathParts fuel (rest.dropWhile isInside)
  | fuel + 1, '[' :: rest =>
      if rest.contains ']' then
        .ofList (rest.takeWhile (· ≠ ']')) ::
          pathParts fuel ((rest.dropWhile (· ≠ ']')).drop 1)
      else pathParts fuel rest
  | fuel + 1, _ :: rest => pathParts fuel rest

def splitPath (key : String) : List String :=
  let chars := key.toList
  let dots := chars.takeWhile (· = '.')
  let afterDots := chars.dropWhile (· = '.')
  let isInside := fun char => char ≠ '.' && char ≠ '['
  let head := afterDots.takeWhile isInside
  let others := afterDots.dropWhile isInside
  let heads := dots.map (fun _ => "") ++ [.ofList head]
  let parts := pathParts (others.length + 1) others
  if others.head? = some '[' && head.isEmpty then heads.dropLast ++ parts
  else heads ++ parts

/-- The value stored at the end of a key path.  Containers are merged with
what is there, and other values replace it. -/
def assign (current : Option Value) (value : Value) : Except MergeError Value :=
  match current, value with
  | some (.table base), .table entries => (mergeEntries base entries).map .table
  | some (.table _), .list _ => .error .containers
  | some (.list _), .table _ => .error .containers
  | _, value => .ok value

/-- The position in a list that a part of a key path names, and what a path finds
there.  A number that is negative counts from the end, and a path that leads on
from there finds nothing. -/
def listStep (items : List Value) (part : String) (isLast : Bool) :
    Except MergeError (Nat × Option Value) :=
  match Decimal.readInteger? part.toList with
  | none => .error (if isLast then .listKey part else .listStep part)
  | some number =>
      let position := if number < 0 then number + items.length else number
      if 0 ≤ position ∧ position < items.length then
        .ok (position.toNat,
          if number < 0 && !isLast then none else items[position.toNat]?)
      else .error .listRange

/-- The value with another value stored at a key path.  On the way, values
that are no containers are replaced by tables. -/
def storeAt (current : Option Value) : List String → Value → Except MergeError Value
  | [], value => assign current value
  | part :: rest, value =>
      match current with
      | some (.list items) => do
          let (position, inner) ← listStep items part rest.isEmpty
          if !rest.isEmpty && inner.any isMissing then .error .missing
          else
            let stored ← storeAt inner rest value
            return .list (items.set position stored)
      | some (.table entries) =>
          let inner := Value.find? entries (.text part)
          if !rest.isEmpty && inner.any isMissing then .error .missing
          else do
            let stored ← storeAt inner rest value
            return .table (Value.store entries (.text part) stored)
      | _ => do
          let stored ← storeAt none rest value
          return .table [(.text part, stored)]

/-- An override as it is written: a key, an equality sign and a value. -/
def Override.ofText (text : String) : Except Yaml.Flaw Override :=
  let chars := text.toList
  let path := splitPath (.ofList (chars.takeWhile (· ≠ '=')))
  match chars.dropWhile (· ≠ '=') with
  | [] => .ok ⟨path, .null⟩
  | _ :: value => (Yaml.read (.ofList value)).map (⟨path, ·⟩)

end Chip8.Config
