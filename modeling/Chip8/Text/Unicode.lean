import Chip8.Text.Numeral

/-!
# Texts as bytes

A text file holds the characters of a text in one to four bytes each.  Bytes
that do not form a character are reported with their place.
-/

namespace Chip8.Text

inductive DecodingError where
  /-- A byte that cannot begin a character. -/
  | start (byte : UInt8) (position : Nat)
  /-- The bytes from `position` on, `count` of them, lack their continuation. -/
  | continuation (byte : UInt8) (position count : Nat)
  /-- The text ends inside a character of which `count` bytes are there. -/
  | truncated (byte : UInt8) (position count : Nat)
  deriving DecidableEq, Repr

namespace DecodingError

/-- Which bytes are meant: a single one is shown, several are a range. -/
def placeText (byte : UInt8) (position count : Nat) : String :=
  if count = 1 then
    "byte 0x" ++ String.ofList (Numeral.zeroFilled 2 [] (Nat.toDigits 16 byte.toNat)) ++
      " in position " ++ Numeral.text position
  else
    "bytes in position " ++ Numeral.text position ++ "-" ++
      Numeral.text (position + count - 1)

def message : DecodingError → String
  | start byte position =>
      "'utf-8' codec can't decode " ++ placeText byte position 1 ++ ": invalid start byte"
  | continuation byte position count =>
      "'utf-8' codec can't decode " ++ placeText byte position count ++
        ": invalid continuation byte"
  | truncated byte position count =>
      "'utf-8' codec can't decode " ++ placeText byte position count ++
        ": unexpected end of data"

end DecodingError

/-- The number of continuation bytes of a first byte, and the range of the
first of them. -/
def continuationOf (byte : UInt8) : Option (Nat × Nat × Nat) :=
  let code := byte.toNat
  if 0xC2 ≤ code ∧ code ≤ 0xDF then some (1, 0x80, 0xBF)
  else if code = 0xE0 then some (2, 0xA0, 0xBF)
  else if code = 0xED then some (2, 0x80, 0x9F)
  else if 0xE1 ≤ code ∧ code ≤ 0xEF then some (2, 0x80, 0xBF)
  else if code = 0xF0 then some (3, 0x90, 0xBF)
  else if 0xF1 ≤ code ∧ code ≤ 0xF3 then some (3, 0x80, 0xBF)
  else if code = 0xF4 then some (3, 0x80, 0x8F)
  else none

/-- A character that is being decoded. -/
structure Begun where
  byte : UInt8
  /-- The position of its first byte. -/
  position : Nat
  /-- The number of its bytes so far. -/
  count : Nat
  /-- The number of bytes still to come. -/
  left : Nat
  /-- The least value of the next byte. -/
  least : Nat
  /-- The greatest value of the next byte. -/
  greatest : Nat
  code : Nat

/-- The characters of a list of bytes from a position on, behind a character
that is being decoded. -/
def decodeFrom (position : Nat) (current : Option Begun) :
    List UInt8 → Except DecodingError (List Char)
  | [] =>
      match current with
      | none => .ok []
      | some begun => .error (.truncated begun.byte begun.position begun.count)
  | byte :: rest =>
      match current with
      | none =>
          if byte.toNat < 0x80 then
            (decodeFrom (position + 1) none rest).map (Char.ofNat byte.toNat :: ·)
          else
            match continuationOf byte with
            | none => .error (.start byte position)
            | some (left, least, greatest) =>
                let bits := byte.toNat % 2 ^ (6 - left)
                decodeFrom (position + 1) (some ⟨byte, position, 1, left, least, greatest, bits⟩) rest
      | some begun =>
          if begun.least ≤ byte.toNat ∧ byte.toNat ≤ begun.greatest then
            let code := begun.code * 64 + byte.toNat % 64
            if begun.left = 1 then
              (decodeFrom (position + 1) none rest).map (Char.ofNat code :: ·)
            else
              decodeFrom (position + 1)
                (some { begun with
                  count := begun.count + 1
                  left := begun.left - 1
                  least := 0x80
                  greatest := 0xBF
                  code := code })
                rest
          else .error (.continuation begun.byte begun.position begun.count)

def decode (bytes : List UInt8) : Except DecodingError String :=
  (decodeFrom 0 none bytes).map String.ofList

end Chip8.Text
