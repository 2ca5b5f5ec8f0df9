import Chip8.Decimal.Notation
import Chip8.Text.Quoted

/-!
# Values of settings and metrics

Settings files and metrics hold values of several kinds.  A value has two
texts: its literal, in which texts are quoted, and its plain text, in which a
text stands for itself.
-/

namespace Chip8

/-- A value of a setting or of a metric. -/
inductive Value where
  | null
  | bool (value : Bool)
  | int (value : Int)
  | real (value : Float)
  | text (value : String)
  | list (items : List Value)
  | table (entries : List (Value × Value))
  deriving Inhabited

namespace Value

def boolText (value : Bool) : String := if value then "True" else "False"

mutual

def literal : Value → String
  | null => "None"
  | bool value => boolText value
  | int value => Numeral.text value
  | real value => Decimal.shortestText value
  | text value => Text.quoted value
  | list items => "[" ++ ", ".intercalate (literals items) ++ "]"
  | table entries => "\x7b" ++ ", ".intercalate (entryLiterals entries) ++ "\x7d"

def literals : List Value → List String
  | [] => []
  | item :: rest => literal item :: literals rest

def entryLiterals : List (Value × Value) → List String
  | [] => []
  | (key, value) :: rest => (literal key ++ ": " ++ literal value) :: entryLiterals rest

end

mutual

/-- Whether all integers in a value can be written. -/
def isWritable : Value → Bool
  | int value => Numeral.isWritable value
  | list items => allWritable items
  | table entries => entriesWritable entries
  | _ => true

def allWritable : List Value → Bool
  | [] => true
  | item :: rest => isWritable item && allWritable rest

def entriesWritable : List (Value × Value) → Bool
  | [] => true
  | (key, value) :: rest => isWritable key && isWritable value && entriesWritable rest

end

/-- A wording around the literal of a value, or the complaint that it cannot be
written. -/
def worded (value : Value) (wording : String → String) : String :=
  if value.isWritable then wording value.literal else Numeral.unwritableText

/-- The plain text of a value. -/
def display : Value → String
  | text value => value
  | value => value.literal

/-- The number that a value stands for.  A truth value is the number 0 or 1. -/
def number? : Value → Option Float
  | bool value => some (if value then 1 else 0)
  | int value => some (Float.ofInt value)
  | real value => some value
  | _ => none

/-- Whether two values are the same key of a table.  Numbers are compared by
their value. -/
def sameKey : Value → Value → Bool
  | null, null => true
  | text first, text second => first == second
  | int first, int second => first == second
  | first, second =>
      match first.number?, second.number? with
      | some first, some second => first == second
      | _, _ => false

/-- The value of a key in the entries of a table. -/
def find? (entries : List (Value × Value)) (key : Value) : Option Value :=
  (entries.find? fun entry => entry.1.sameKey key).map Prod.snd

/-- The entries with a value stored under a key.  A key that is already there
keeps its place. -/
def store (entries : List (Value × Value)) (key value : Value) : List (Value × Value) :=
  if entries.any fun entry => entry.1.sameKey key then
    entries.map fun entry => if entry.1.sameKey key then (entry.1, value) else entry
  else entries ++ [(key, value)]

/-- The table of a list of entries, of which the last one of a key counts. -/
def ofEntries (entries : List (Value × Value)) : Value :=
  table (entries.foldl (fun stored entry => store stored entry.1 entry.2) [])

end Value

end Chip8
