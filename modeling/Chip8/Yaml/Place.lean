import Chip8.Yaml.Scalar

/-!
# Places in a document

A place is what is left of a document, with the column that the next character
stands in.  In block style a place also knows whether a key or an entry may
begin there: after a line break it may, and after the colon of a key it may
not.
-/

namespace Chip8.Yaml

/-- A place in a document. -/
structure Place where
  rest : List Char
  /-- The column of the next character. -/
  column : Nat
  /-- Whether a key or an entry of a list may begin here. -/
  fresh : Bool

/-- Blanks separate tokens in a line. -/
def isBlank (char : Char) : Bool := char = ' ' || char = '\t'

/-- Whether a text begins with a blank or a line break, or is at its end. -/
def atGap : List Char → Bool
  | [] => true
  | char :: _ => isBlank char || char = '\n'

/-- The brackets and commas that end a plain scalar in flow style. -/
def isFlowIndicator (char : Char) : Bool :=
  char = ',' || char = '[' || char = ']' || char = '\x7b' || char = '\x7d'

/-- Whether a text begins with a line of three equal marks. -/
def startsMarker (mark : Char) : List Char → Bool
  | first :: second :: third :: rest =>
      first = mark && second = mark && third = mark && atGap rest
  | _ => false

/-- Whether a marker between documents begins at a column. -/
def atMarker (column : Nat) (rest : List Char) : Bool :=
  column = 0 && (startsMarker '-' rest || startsMarker '.' rest)

namespace Place

/-- Skip blanks, comments and line breaks.  Tabs are skipped where no key can
begin. -/
def skipFrom (flow comment : Bool) (column : Nat) (fresh : Bool) : List Char → Place
  | [] => ⟨[], column, fresh⟩
  | char :: rest =>
      if char = '\n' then skipFrom flow false 0 (fresh || !flow) rest
      else if comment || char = ' ' || (char = '\t' && (flow || !fresh)) then
        skipFrom flow comment (column + 1) fresh rest
      else if char = '#' then skipFrom flow true (column + 1) fresh rest
      else ⟨char :: rest, column, fresh⟩

def toToken (flow : Bool) (place : Place) : Place :=
  skipFrom flow false place.column place.fresh place.rest

/-- Whether there is nothing left in the document at this place. -/
def atEnd (place : Place) : Bool :=
  place.rest.isEmpty || atMarker place.column place.rest

/-- The place behind `count` characters of the line, where no key begins. -/
def pass (place : Place) (count : Nat) : Place :=
  ⟨place.rest.drop count, place.column + count, false⟩

/-- Whether a line break lies between a place and a later one. -/
def breaksBefore (place later : Place) : Bool :=
  (place.rest.take (place.rest.length - later.rest.length)).contains '\n'

/-- Whether an indicator followed by a gap begins here. -/
def atIndicator (place : Place) (indicator : Char) : Bool :=
  match place.rest with
  | char :: rest => char = indicator && atGap rest
  | [] => false

end Place

end Chip8.Yaml
