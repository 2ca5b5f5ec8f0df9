import Chip8.Yaml.Leaf

/-!
# The structure of a document

A document is a tree of scalars, lists and tables.  In block style the
structure follows from the columns in which keys and dashes stand; in flow
style it is written with brackets and commas.

The reading functions take turns on the text, and each turn has less fuel than
the one before.  A turn passes at least one character or ends a list or a
table, so a small multiple of the length of the text is enough.
-/

namespace Chip8.Yaml

/-- A part of a document. -/
inductive Node where
  /-- A scalar, written plainly or in quotes. -/
  | scalar (isPlain : Bool) (text : List Char)
  | list (items : List Node)
  | table (entries : List (Node × Node))
  deriving Inhabited

namespace Node

def missing : Node := scalar true []

def startsPlain (flow : Bool) : List Char → Bool
  | [] => false
  | char :: rest =>
      if char = '-' then !atGap rest
      else if char = '?' || char = ':' then !flow && !atGap rest
      else
        !("\t\n ,[]\x7b\x7d#&*!|>'\"%@".toList.contains char || char = Char.ofNat 0x60)

/-- The flaw of a scalar or of a character that cannot begin a part. -/
def strayFlaw (place : Place) : Flaw :=
  match place.rest with
  | [] => .grammar
  | char :: rest =>
      if char = '\'' || char = '"' then
        match readQuoted char [] {} 0 false (place.column + 1) rest with
        | .ok _ => .grammar
        | .error flaw => flaw
      else if char = '%' && place.column = 0 then .uncovered
      else if char = '\t' || char = '@' || char = '%' || char = Char.ofNat 0x60 then .token
      else if !place.fresh && (char = ':' || char = '-' || char = '?') && atGap rest then .token
      else .grammar

def readScalar (flow : Bool) (indent : Int) (place : Place) : Except Flaw (Node × Place) :=
  match place.rest with
  | [] => .error .grammar
  | char :: rest =>
      if char = '\'' || char = '"' then do
        let leaf ← readQuoted char [] {} 0 false (place.column + 1) rest
        return (scalar false leaf.text, leaf.place)
      else if startsPlain flow place.rest then do
        let leaf ← readPlain flow indent [] {} true place.column place.rest
        return (scalar true leaf.text, leaf.place)
      else if char = '*' then .error .composition
      else if char = '!' || char = '&' then .error .uncovered
      else if char = '|' || char = '>' then .error (if flow then .token else .uncovered)
      else .error (strayFlaw place)

mutual

def readFlow (fuel : Nat) (place : Place) : Except Flaw (Node × Place) :=
  match fuel with
  | 0 => .error .grammar
  | fuel + 1 =>
      match place.rest with
      | '[' :: _ => do
          let (items, after) ← readFlowItems fuel [] (place.pass 1)
          return (list items.reverse, after)
      | '\x7b' :: _ => do
          let (entries, after) ← readFlowEntries fuel [] (place.pass 1)
          return (table entries.reverse, after)
      | _ => if place.atEnd then .error .grammar else readScalar true 0 place

/-- Read the items of a list in flow style, behind its opening bracket or a
comma.  An item with a colon is a table with one entry. -/
def readFlowItems (fuel : Nat) (items : List Node) (place : Place) :
    Except Flaw (List Node × Place) :=
  match fuel with
  | 0 => .error .grammar
  | fuel + 1 =>
      let start := place.toToken true
      match start.rest with
      | ']' :: _ => .ok (items, start.pass 1)
      | _ => do
          let (item, after) ← readFlow fuel start
          let next := after.toToken true
          match next.rest with
          | ':' :: _ =>
              if start.breaksBefore next then .error .grammar
              else
                let (value, afterValue) ← readFlowValue fuel (next.pass 1)
                readFlowEnd fuel (table [(item, value)] :: items) afterValue
          | _ => readFlowEnd fuel (item :: items) next

/-- Read what follows an item of a list in flow style. -/
def readFlowEnd (fuel : Nat) (items : List Node) (place : Place) :
    Except Flaw (List Node × Place) :=
  match fuel with
  | 0 => .error .grammar
  | fuel + 1 =>
      let next := place.toToken true
      match next.rest with
      | ',' :: _ => readFlowItems fuel items (next.pass 1)
      | ']' :: _ => .ok (items, next.pass 1)
      | _ => .error (strayFlaw next)

/-- Read the entries of a table in flow style, behind its opening bracket or a
comma. -/
def readFlowEntries (fuel : Nat) (entries : List (Node × Node)) (place : Place) :
    Except Flaw (List (Node × Node) × Place) :=
  match fuel with
  | 0 => .error .grammar
  | fuel + 1 =>
      let start := place.toToken true
      match start.rest with
      | '\x7d' :: _ => .ok (entries, start.pass 1)
      | _ => do
          let (key, after) ← readFlow fuel start
          let next := after.toToken true
          let (value, afterValue) ← match next.rest with
            | ':' :: _ =>
                if start.breaksBefore next then .error .grammar
                else readFlowValue fuel (next.pass 1)
            | _ => .ok (missing, next)
          let close := afterValue.toToken true
          match close.rest with
          | ',' :: _ => readFlowEntries fuel ((key, value) :: entries) (close.pass 1)
          | '\x7d' :: _ => .ok ((key, value) :: entries, close.pass 1)
          | _ => .error (strayFlaw close)

/-- Read the value behind a colon in flow style, which may be missing. -/
def readFlowValue (fuel : Nat) (place : Place) : Except Flaw (Node × Place) :=
  match fuel with
  | 0 => .error .grammar
  | fuel + 1 =>
      let start := place.toToken true
      match start.rest with
      | ',' :: _ | ']' :: _ | '\x7d' :: _ => .ok (missing, start)
      | _ => readFlow fuel start

end

/-- Read a scalar or a part in flow style inside a part in block style. -/
def readLeaf (fuel : Nat) (indent : Int) (place : Place) : Except Flaw (Node × Place) :=
  match place.rest with
  | '[' :: _ | '\x7b' :: _ => readFlow fuel place
  | _ => readScalar false indent place

/-- Whether the part between two places is a key: a colon stands behind it in
the same line. -/
def isKeyBetween (start next : Place) : Bool :=
  !start.breaksBefore next && next.atIndicator ':'

mutual

/-- Read a part in block style that is indented deeper than `indent`, or a list
whose dashes stand in the column `indent` if `dashes` allows it. -/
def readBlock (fuel : Nat) (indent : Int) (dashes : Bool) (place : Place) :
    Except Flaw (Node × Place) :=
  match fuel with
  | 0 => .error .grammar
  | fuel + 1 =>
      let start := place.toToken false
      if start.atEnd then .ok (missing, start)
      else if (start.column : Int) ≤ indent &&
          !(dashes && (start.column : Int) = indent && start.atIndicator '-') then
        .ok (missing, start)
      else if start.atIndicator '-' then
        if start.fresh then do
          let (items, after) ← readItems fuel start.column [] start
          return (list items.reverse, after)
        else .error .token
      else if start.atIndicator '?' || start.atIndicator ':' then
        if start.fresh then do
          let (entries, after) ← readEntries fuel start.column [] start
          return (table entries.reverse, after)
        else .error .token
      else do
        let (leaf, after) ← readLeaf fuel indent start
        let next := after.toToken false
        if isKeyBetween start next then
          if start.fresh then
            let (entries, finish) ← readEntry fuel start.column [] leaf (next.pass 1)
            return (table entries.reverse, finish)
          else .error .token
        else return (leaf, next)

/-- Read the items of a list whose dashes stand in the given column. -/
def readItems (fuel : Nat) (column : Nat) (items : List Node) (place : Place) :
    Except Flaw (List Node × Place) :=
  match fuel with
  | 0 => .error .grammar
  | fuel + 1 => do
      let (item, after) ← readBlock fuel column false { place.pass 1 with fresh := true }
      let next := after.toToken false
      if next.atEnd || next.column < column then return (item :: items, next)
      else if next.column = column && next.fresh then
        if next.atIndicator '-' then readItems fuel column (item :: items) next
        else return (item :: items, next)
      else .error (strayFlaw next)

/-- Read the entries of a table whose keys stand in the given column. -/
def readEntries (fuel : Nat) (column : Nat) (entries : List (Node × Node)) (place : Place) :
    Except Flaw (List (Node × Node) × Place) :=
  match fuel with
  | 0 => .error .grammar
  | fuel + 1 =>
      if place.atIndicator ':' then
        readEntry fuel column entries missing { place.pass 1 with fresh := true }
      else if place.atIndicator '?' then do
        let (key, after) ← readBlock fuel column true { place.pass 1 with fresh := true }
        let next := after.toToken false
        if !next.atEnd && next.column = column && next.atIndicator ':' then
          readEntry fuel column entries key { next.pass 1 with fresh := true }
        else readMore fuel column ((key, missing) :: entries) next
      else do
        let (key, after) ← readLeaf fuel column place
        let next := after.toToken false
        if isKeyBetween place next then readEntry fuel column entries key (next.pass 1)
        else .error .token

/-- Read the value of a key and the entries after it. -/
def readEntry (fuel : Nat) (column : Nat) (entries : List (Node × Node)) (key : Node)
    (place : Place) : Except Flaw (List (Node × Node) × Place) :=
  match fuel with
  | 0 => .error .grammar
  | fuel + 1 => do
      let (value, after) ← readBlock fuel column true place
      readMore fuel column ((key, value) :: entries) (after.toToken false)

/-- Read further entries of a table, if there are any. -/
def readMore (fuel : Nat) (column : Nat) (entries : List (Node × Node)) (place : Place) :
    Except Flaw (List (Node × Node) × Place) :=
  match fuel with
  | 0 => .error .grammar
  | fuel + 1 =>
      if place.atEnd || place.column < column then .ok (entries, place)
      else if place.column = column && place.fresh && !place.atIndicator '-' then
        readEntries fuel column entries place
      else .error (strayFlaw place)

end

end Node

end Chip8.Yaml
