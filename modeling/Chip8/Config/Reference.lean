import Chip8.Config.Layers

/-!
# References between settings

A text may refer to another setting by its key path in braces behind a dollar
sign.  A text that is one reference takes over the value of the setting; a
reference inside a text is replaced by the text of the value.  A backslash
before the dollar sign makes it an ordinary character.

The form of a reference is looked at when its text becomes part of a layer, as
are the keys of tables.  References are followed when all layers are merged.
-/

namespace Chip8.Config

/-- Why a reference could not be followed. -/
inductive ReferenceError where
  | malformed
  /-- The reference has a form that is not read here: it is relative, has another
  one inside or an index, or asks for a computation that may exist. -/
  | uncovered
  | unknown (key : String)
  | missing (key : String)
  /-- The reference asks for a computation of some kind. -/
  | computation (kind : String)
  /-- The references lead back to each other. -/
  | circular
  /-- The value is an integer that cannot be written. -/
  | unwritable
  deriving DecidableEq, Repr

def ReferenceError.message : ReferenceError → String
  | malformed | uncovered => ""
  | unknown key => "Interpolation key '" ++ key ++ "' not found"
  | missing key =>
      "MissingMandatoryValue while resolving interpolation: Missing mandatory value: " ++ key
  | computation kind => "Unsupported interpolation type " ++ kind
  | circular => "Recursive interpolation detected"
  | unwritable =>
      "ValueError raised while resolving interpolation: " ++ Numeral.unwritableText

/-- A reference that could not be followed, with the steps to its text. -/
structure Unresolved where
  /-- Why it could not be followed. -/
  reason : ReferenceError
  steps : List Step := []
  deriving DecidableEq, Repr

namespace Unresolved

/-- The error as it is seen from the container of the value. -/
def behind (step : Step) (error : Unresolved) : Unresolved :=
  { error with steps := step :: error.steps }

def message (error : Unresolved) : String :=
  located error.reason.message error.steps
    (match error.steps.getLast? with
      | some (.item _) => "list"
      | _ => "dict")

end Unresolved

/-- A piece of a text: characters that stand for themselves, or a reference. -/
inductive Piece where
  | verbatim (chars : List Char)
  | reference (body : List Char)
  deriving DecidableEq, Repr

/-- Whether a text has a dollar sign before an opening brace. -/
def hasReference : List Char → Bool
  | '$' :: '\x7b' :: _ => true
  | _ :: rest => hasReference rest
  | [] => false

/-- The verbatim piece of reversed characters, in front of other pieces. -/
def verbatimBefore (reversed : List Char) (pieces : List Piece) : List Piece :=
  if reversed.isEmpty then pieces else .verbatim reversed.reverse :: pieces

/-- The pieces of a text, if all its references are closed.  Of the backslashes
before a reference every second one is dropped, and an odd number makes the
reference verbatim. -/
def splitPieces : Nat → List Char → List Char → Option (List Piece)
  | 0, _, _ => none
  | _, reversed, [] => some (verbatimBefore reversed [])
  | fuel + 1, reversed, '$' :: '\x7b' :: rest =>
      let slashes := (reversed.takeWhile (· = '\\')).length
      let kept := List.replicate (slashes / 2) '\\' ++ reversed.dropWhile (· = '\\')
      if slashes % 2 = 1 then splitPieces fuel ('\x7b' :: '$' :: kept) rest
      else if rest.contains '\x7d' then
        (splitPieces fuel [] ((rest.dropWhile (· ≠ '\x7d')).drop 1)).map fun pieces =>
          verbatimBefore kept (.reference (rest.takeWhile (· ≠ '\x7d')) :: pieces)
      else none
  | fuel + 1, reversed, char :: rest => splitPieces fuel (char :: reversed) rest

def trimBlanks (chars : List Char) : List Char :=
  ((chars.dropWhile Yaml.isBlank).reverse.dropWhile Yaml.isBlank).reverse

/-- Characters that a key path in a reference cannot have. -/
def isForeign (char : Char) : Bool := "\\$\x7b\x7d() \t'\"".toList.contains char

/-- Whether a text is a letter or an underscore with letters, digits and
underscores behind it. -/
def isIdentifier : List Char → Bool
  | [] => false
  | first :: rest =>
      (first.isAlpha || first = '_') && rest.all fun char => char.isAlphanum || char = '_'

/-- The error of a reference that asks for a computation.  Of the names without a
dot none is known; which ones with a dot are is left open. -/
def computationError (key : List Char) : ReferenceError :=
  let name := key.takeWhile (· ≠ ':')
  let arguments := key.dropWhile (· ≠ ':') |>.drop 1
  if isIdentifier name && arguments.all (fun char => char.isAlphanum || char = '_') then
    .computation (.ofList name)
  else .uncovered

def referencePath (body : List Char) : Except ReferenceError (List String) :=
  let key := trimBlanks body
  if key.head? = some '.' || key.any (fun char => char = '$' || char = '[' || char = ']') then
    .error .uncovered
  else if key.contains ':' then .error (computationError key)
  else if key.isEmpty || key.any isForeign then .error .malformed
  else
    let path := splitPath (.ofList key)
    if path.any (·.isEmpty) then .error .malformed else .ok path

/-! ## The form of values -/

/-- What is wrong with the form of a reference in a text. -/
def textError? (text : String) : Option ReferenceError :=
  if hasReference text.toList then
    match splitPieces (text.length + 1) [] text.toList with
    | none => some .malformed
    | some pieces => pieces.findSome? fun piece =>
        match piece with
        | .verbatim _ => none
        | .reference body =>
            match referencePath body with
            | .error .malformed => some .malformed
            | .error .uncovered => some .uncovered
            | _ => none
  else none

/-- Why a value cannot be part of a layer. -/
inductive ContentError where
  /-- A key of the table to which the steps lead is null. -/
  | key (steps : List Step)
  | reference (error : Unresolved)
  deriving DecidableEq, Repr

namespace ContentError

/-- The error as it is seen from the container of the value. -/
def behind (step : Step) : ContentError → ContentError
  | key steps => key (step :: steps)
  | reference error => reference (error.behind step)

def message : ContentError → String
  | key steps => located "Incompatible key type 'NoneType'" steps "dict"
  | reference error => error.message

end ContentError

mutual

/-- The first error in a value that is to become part of a layer. -/
def contentError? : Value → Option ContentError
  | .text text => (textError? text).map fun reason => .reference { reason := reason }
  | .list items => itemsError? 0 items
  | .table entries => entriesError? entries
  | _ => none

/-- The first error in the items of a list, of which the first one has the given
position. -/
def itemsError? : Nat → List Value → Option ContentError
  | _, [] => none
  | position, item :: rest =>
      match contentError? item with
      | some error => some (error.behind (.item position))
      | none => itemsError? (position + 1) rest

/-- The first error in the entries of a table.  Keys are texts or numbers. -/
def entriesError? : List (Value × Value) → Option ContentError
  | [] => none
  | (key, value) :: rest =>
      match key with
      | .null | .list _ | .table _ => some (.key [])
      | _ =>
          match contentError? value with
          | some error => some (error.behind (.key key.display))
          | none => entriesError? rest

end

/-! ## Following references -/

def follow (value : Value) : List String → Option Value
  | [] => some value
  | part :: rest =>
      match value with
      | .table entries =>
          match Value.find? entries (.text part) with
          | some inner => follow inner rest
          | none => none
      | .list items =>
          match listStep items part false with
          | .ok (_, some inner) => follow inner rest
          | _ => none
      | _ => none

/-- The text that the values of the pieces form, or the value of a single
reference. -/
def joinPieces (resolve : List Char → Except Unresolved Value) (pieces : List Piece) :
    Except Unresolved Value :=
  match pieces with
  | [.reference body] => resolve body
  | pieces => do
      let texts ← pieces.mapM fun piece =>
        match piece with
        | .verbatim chars => .ok (String.ofList chars)
        | .reference body => do
            let value ← resolve body
            if value.isWritable then .ok value.display
            else .error { reason := .unwritable }
      return .text (String.join texts)

mutual

/-- A value with its references followed, each at most `fuel` steps far. -/
def resolve (root : Layer) (fuel : Nat) (value : Value) : Except Unresolved Value :=
  match value with
  | .text text =>
      if hasReference text.toList then
        match fuel, splitPieces (text.length + 1) [] text.toList with
        | 0, _ => .error { reason := .circular }
        | _, none => .error { reason := .malformed }
        | fuel + 1, some pieces =>
            joinPieces
              (fun body => do
                let path ← (referencePath body).mapError ({ reason := · })
                match follow (.table root) path with
                | none => .error { reason := .unknown (.ofList (trimBlanks body)) }
                | some target =>
                    if isMissing target then
                      .error { reason := .missing (.ofList (trimBlanks body)) }
                    else resolve root fuel target)
              pieces
      else .ok (.text text)
  | .list items => (resolveItems root fuel 0 items).map .list
  | .table entries => (resolveEntries root fuel entries).map .table
  | other => .ok other
  termination_by (fuel, sizeOf value)

/-- The items of a list with their references followed.  The first one has the
given position. -/
def resolveItems (root : Layer) (fuel position : Nat) (items : List Value) :
    Except Unresolved (List Value) :=
  match items with
  | [] => .ok []
  | item :: rest => do
      let first ← (resolve root fuel item).mapError (.behind (.item position))
      return first :: (← resolveItems root fuel (position + 1) rest)
  termination_by (fuel, sizeOf items)

/-- The entries of a table with their references followed. -/
def resolveEntries (root : Layer) (fuel : Nat) (entries : Layer) :
    Except Unresolved Layer :=
  match entries with
  | [] => .ok []
  | (key, value) :: rest => do
      let first ← (resolve root fuel value).mapError (.behind (.key key.display))
      return (key, first) :: (← resolveEntries root fuel rest)
  termination_by (fuel, sizeOf entries)

end

end Chip8.Config
