import Chip8.Yaml.Place

/-!
# Scalars in a document

A scalar is written plainly, in single quotes or in double quotes.  It may go
on over several lines: a single line break in it is read as a blank, and of
several line breaks all but the first are kept.
-/

namespace Chip8.Yaml

/-- A scalar as it is read. -/
structure Leaf where
  text : List Char
  place : Place

/-- A gap between the words of a scalar: blanks in a line, or line breaks. -/
structure Gap where
  /-- The blanks since the last word, the latest first. -/
  blanks : List Char := []
  /-- The number of line breaks since the last word. -/
  breaks : Nat := 0
  /-- Whether the first line break was written with an escape. -/
  joined : Bool := false

namespace Gap

/-- What a gap contributes to the text, in reverse. -/
def text (gap : Gap) : List Char :=
  if gap.joined then List.replicate gap.breaks '\n'
  else if gap.breaks = 0 then gap.blanks
  else if gap.breaks = 1 then [' ']
  else List.replicate (gap.breaks - 1) '\n'

/-- The gap after another blank.  Blanks at the start of a line are dropped. -/
def blank (gap : Gap) (char : Char) : Gap :=
  if gap.breaks = 0 && !gap.joined then { gap with blanks := char :: gap.blanks } else gap

def lineBreak (gap : Gap) : Gap :=
  { gap with blanks := [], breaks := gap.breaks + 1 }

def isLineStart (gap : Gap) : Bool := gap.joined || 0 < gap.breaks

end Gap

/-- Read a plain scalar.  In block style its later lines are indented deeper
than `indent`. -/
def readPlain (flow : Bool) (indent : Int) (text : List Char) (gap : Gap) (inWord : Bool)
    (column : Nat) : List Char → Except Flaw Leaf
  | [] => .ok ⟨text.reverse, ⟨[], column, gap.isLineStart⟩⟩
  | char :: rest =>
      let stop : Except Flaw Leaf :=
        .ok ⟨text.reverse, ⟨char :: rest, column, gap.isLineStart⟩⟩
      if char = '\n' then
        readPlain flow indent text gap.lineBreak false 0 rest
      else if isBlank char then
        if char = '\t' && gap.isLineStart && (column : Int) ≤ indent then .error .token
        else readPlain flow indent text (gap.blank char) false (column + 1) rest
      else if !inWord && gap.isLineStart && !flow && (column : Int) ≤ indent then stop
      else if !inWord && (char = '#' || atMarker column (char :: rest)) then stop
      else if char = ':' && atGap rest then stop
      else if flow && char = ':' && rest.head?.any (fun next => next = '?' || isFlowIndicator next) then
        .error .token
      else if flow && isFlowIndicator char then stop
      else
        readPlain flow indent (char :: (gap.text ++ text)) {} true (column + 1) rest

def escape? : Char → Option Char
  | '0' => some '\x00'
  | 'a' => some '\x07'
  | 'b' => some '\x08'
  | 't' => some '\t'
  | '\t' => some '\t'
  | 'n' => some '\n'
  | 'v' => some '\x0b'
  | 'f' => some '\x0c'
  | 'r' => some '\r'
  | 'e' => some '\x1b'
  | ' ' => some ' '
  | '"' => some '"'
  | '/' => some '/'
  | '\\' => some '\\'
  | 'N' => some '\u0085'
  | '_' => some '\u00a0'
  | 'L' => some '\u2028'
  | 'P' => some '\u2029'
  | _ => none

/-- The number of digits of an escape by number. -/
def escapeWidth : Char → Nat
  | 'x' => 2
  | 'u' => 4
  | 'U' => 8
  | _ => 0

/-- The character with a number written in hexadecimal digits. -/
def numbered? (width : Nat) (chars : List Char) : Option Char :=
  let digits := chars.take width
  let code := Scalar.digitsValue 16 digits
  if digits.length = width && digits.all (fun char => char ≠ '_' && Scalar.isDigitBelow 16 char) &&
      (code < 0xD800 || (0xDFFF < code && code ≤ 0x10FFFF)) then
    some (Char.ofNat code)
  else none

/-- Read a scalar behind its opening quote.  An escape is read at the character
behind its mark, and the digits of an escape by number are skipped after it. -/
def readQuoted (quote : Char) (text : List Char) (gap : Gap) (skip : Nat) (escaped : Bool)
    (column : Nat) : List Char → Except Flaw Leaf
  | [] => .error .token
  | char :: rest =>
      let go (text : List Char) (gap : Gap) (skip : Nat) (escaped : Bool) :=
        readQuoted quote text gap skip escaped (column + 1) rest
      let isDouble : Bool := quote = '"'
      if 0 < skip then go text gap (skip - 1) false
      else if escaped then
        if !isDouble then go (char :: text) {} 0 false
        else if char = '\n' then
          readQuoted quote text { joined := true } 0 false 0 rest
        else
          match escape? char with
          | some special => go (special :: text) {} 0 false
          | none =>
              match escapeWidth char with
              | 0 => .error .token
              | width =>
                  match numbered? width rest with
                  | some special => go (special :: text) {} width false
                  | none => .error .token
      else if atMarker column (char :: rest) then .error .token
      else if char = '\n' then
        readQuoted quote text gap.lineBreak 0 false 0 rest
      else if isBlank char then go text (gap.blank char) 0 false
      else if char = quote then
        if !isDouble && rest.head? = some quote then go (gap.text ++ text) {} 0 true
        else .ok ⟨(gap.text ++ text).reverse, ⟨rest, column + 1, false⟩⟩
      else if isDouble && char = '\\' then go (gap.text ++ text) {} 0 true
      else go (char :: (gap.text ++ text)) {} 0 false

end Chip8.Yaml
