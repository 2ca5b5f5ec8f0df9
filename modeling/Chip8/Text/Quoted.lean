import Chip8.Text.Printable

/-!
# Quoted texts

Messages show a text between single quotes, or between double quotes if it has
a single quote and no double quote.  The chosen quote, the backslash and the
characters that are not printable are escaped.
-/

namespace Chip8.Text

/-- The quote around a text. -/
def quoteFor (chars : List Char) : Char :=
  if chars.contains '\'' && !chars.contains '"' then '"' else '\''

/-- The lower-case hexadecimal digits of a number, filled with zeros. -/
def escapeDigits (width value : Nat) : List Char :=
  let digits := Nat.toDigits 16 value
  List.replicate (width - digits.length) '0' ++ digits

def escapeChar (quote char : Char) : List Char :=
  if char = quote ∨ char = '\\' then ['\\', char]
  else if char = '\n' then ['\\', 'n']
  else if char = '\r' then ['\\', 'r']
  else if char = '\t' then ['\\', 't']
  else if isPrintable char then [char]
  else if char.toNat < 0x100 then '\\' :: 'x' :: escapeDigits 2 char.toNat
  else if char.toNat < 0x10000 then '\\' :: 'u' :: escapeDigits 4 char.toNat
  else '\\' :: 'U' :: escapeDigits 8 char.toNat

def quoted (text : String) : String :=
  let quote := quoteFor text.toList
  .ofList (quote :: (text.toList.flatMap (escapeChar quote) ++ [quote]))

end Chip8.Text
