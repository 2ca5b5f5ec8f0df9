import Chip8.Yaml.Node

/-!
# Documents

A text holds at most one document, between optional markers.  An empty text is
null.  Tables have no two equal text keys, and lists and tables are no keys.
-/

namespace Chip8.Yaml

namespace Node

/-- The text of a key that is a text. -/
def keyText? : Node → Option (List Char)
  | scalar false text => some text
  | scalar true text =>
      match Scalar.ofPlain text with
      | .plain (.text _) => some text
      | _ => none
  | _ => none

/-- Whether a node is the key of entries that are merged into its table. -/
def isMerge : Node → Bool
  | scalar true text => text = ['<', '<']
  | _ => false

/-- The entries of a value that is merged into a table. -/
def mergedEntries : Value → Except Flaw (List (Value × Value))
  | .table entries => .ok entries
  | .list items =>
      items.foldr
        (fun item rest => do
          match item with
          | .table entries => return (← rest) ++ entries
          | _ => .error .construction)
        (.ok [])
  | _ => .error .construction

mutual

def value : Node → Except Flaw Value
  | scalar false text => .ok (.text (.ofList text))
  | scalar true text =>
      match Scalar.ofPlain text with
      | .plain value => .ok value
      | .malformed flaw => .error flaw
      | .merge | .default => .error .construction
  | list items => (values items).map .list
  | table entries =>
      if (entries.filterMap fun entry => entry.1.keyText?).Nodup then do
        let (merged, own) ← entryValues entries
        return .ofEntries (merged ++ own)
      else .error .construction

def values : List Node → Except Flaw (List Value)
  | [] => .ok []
  | item :: rest => do return (← value item) :: (← values rest)

/-- The entries of a table that are merged into it, and its own entries. -/
def entryValues : List (Node × Node) →
    Except Flaw (List (Value × Value) × List (Value × Value))
  | [] => .ok ([], [])
  | (key, content) :: rest => do
      if key.isMerge then
        let merged ← mergedEntries (← value content)
        let (others, own) ← entryValues rest
        return (merged ++ others, own)
      else
        let keyValue ← value key
        match keyValue with
        | .list _ | .table _ => .error .construction
        | _ =>
            let contentValue ← value content
            let (merged, own) ← entryValues rest
            return (merged, (keyValue, contentValue) :: own)

end

end Node

def isAllowed (char : Char) : Bool :=
  let code := char.toNat
  code = 0x09 || code = 0x0A || code = 0x0D || (0x20 ≤ code && code ≤ 0x7E) || code = 0x85 ||
    (0xA0 ≤ code && code ≠ 0xFFFE && code ≠ 0xFFFF)

/-- The line and paragraph separators, which break lines in a way of their own. -/
def isSeparator (char : Char) : Bool := char = '\u2028' || char = '\u2029'

/-- All line breaks are written in one way. -/
def unifyBreaks : List Char → List Char
  | '\r' :: '\n' :: rest => '\n' :: unifyBreaks rest
  | '\r' :: rest => '\n' :: unifyBreaks rest
  | '\u0085' :: rest => '\n' :: unifyBreaks rest
  | char :: rest => char :: unifyBreaks rest
  | [] => []

def checkEnd (place : Place) : Except Flaw Unit :=
  let next := place.toToken false
  if next.rest.isEmpty then .ok ()
  else if next.column = 0 && startsMarker '.' next.rest then
    if ((next.pass 3).toToken false).rest.isEmpty then .ok () else .error .composition
  else if next.atEnd then .error .composition
  else .error (Node.strayFlaw next)

def readNode (chars : List Char) : Except Flaw Node :=
  let start : Place := Place.toToken false ⟨chars, 0, true⟩
  let fuel := 8 * chars.length + 8
  if start.rest.isEmpty then .ok .missing
  else
    let content := if start.column = 0 && startsMarker '-' start.rest then start.pass 3 else start
    do
      let (node, after) ← Node.readBlock fuel (-1) false content
      checkEnd after
      return node

/-- The value of a document.  A mark of the byte order is dropped in front of it
and is a character like others inside. -/
def read (text : String) : Except Flaw Value :=
  let chars := match text.toList with
    | '\ufeff' :: rest => rest
    | chars => chars
  if !chars.all isAllowed then .error .character
  else if chars.any isSeparator then .error .uncovered
  else do (← readNode (unifyBreaks chars)).value

end Chip8.Yaml
