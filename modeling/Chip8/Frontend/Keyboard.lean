import Chip8.Frontend.Layout

/-!
# Keys typed at a terminal

A terminal reports keystrokes but no releases, so a key counts as held for a
certain number of frames after its last keystroke.  Typed text also contains
escape sequences, which are skipped, and the two ways to quit: the escape key
and the interrupt character.
-/

namespace Chip8.Keyboard

/-- The character of the escape key, which also starts escape sequences. -/
def escape : Char := '\x1b'

/-- The character that asks for the end of a program. -/
def interrupt : Char := '\x03'

/-- A character inside a control sequence. -/
def isParameter (char : Char) : Bool := 0x20 ≤ char.toNat && char.toNat ≤ 0x3F

/-- A character that ends a control sequence. -/
def isFinal (char : Char) : Bool := 0x40 ≤ char.toNat && char.toNat ≤ 0x7E

/-- The text behind the end of a control sequence.  A sequence that is cut off
has no end. -/
def afterFinal : List Char → List Char
  | char :: rest => if isFinal char then rest else char :: rest
  | [] => []

/-- The text behind a control sequence, from behind its bracket on. -/
def afterControl (text : List Char) : List Char := afterFinal (text.dropWhile isParameter)

/-- For each key that is held, the number of frames for which it still is. -/
abbrev Holds := Vector (Option Nat) 16

def Holds.released : Holds := .replicate 16 none

/-- The keys that are held, each with its number of frames. -/
def Holds.entries (holds : Holds) : List (Key × Nat) :=
  (List.finRange 16).filterMap fun key =>
    (holds.get key).map fun frames => (key, frames)

def Holds.keys (holds : Holds) : KeySet :=
  .ofList (holds.entries.map fun entry => Layout.code entry.1)

/-- The holds one frame later.  A key in its last frame is let go. -/
def Holds.age (holds : Holds) : Holds :=
  holds.map fun frames => (frames.filter (1 < ·)).map (· - 1)

def Holds.strike (holds : Holds) (key : Key) (frames : Nat) : Holds :=
  holds.set key (some frames)

/-- The holds after a character that is no part of a sequence. -/
def Holds.type (holds : Holds) (char : Char) (frames : Nat) : Holds :=
  match Layout.findAnyCase? char with
  | some key => holds.strike key frames
  | none => holds

theorem length_afterFinal_le (text : List Char) : (afterFinal text).length ≤ text.length := by
  cases text with
  | nil => simp [afterFinal]
  | cons char rest =>
      rw [afterFinal]
      split <;> simp

theorem length_afterControl_le (text : List Char) :
    (afterControl text).length ≤ text.length :=
  Nat.le_trans (length_afterFinal_le _) (List.dropWhile_sublist _).length_le

/-- Takes typed text in.  The first component says whether the session should
go on; it is false from the first character on that asks to quit. -/
def feed (frames : Nat) : List Char → Holds → Bool × Holds
  | [], holds => (true, holds)
  | char :: rest, holds =>
      if char = interrupt then (false, holds)
      else if char = escape then
        match rest with
        | '[' :: sequence => feed frames (afterControl sequence) holds
        | 'O' :: sequence => feed frames (sequence.drop 1) holds
        | _ => (false, holds)
      else feed frames rest (holds.type char frames)
termination_by text => text.length
decreasing_by
  · have := length_afterControl_le sequence
    simp only [List.length_cons]
    omega
  · simp only [List.length_cons, List.length_drop]
    omega
  · simp

end Chip8.Keyboard
