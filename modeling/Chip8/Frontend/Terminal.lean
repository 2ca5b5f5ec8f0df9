import Chip8.Frontend.Basic
import Chip8.Frontend.Keyboard

/-!
# The terminal front-end

The display is painted with block characters.  Only the cells that differ from
the frame before are painted again.
-/

namespace Chip8

structure Terminal where
  /-- The number of frames for which a key counts as held. -/
  holdFrames : Nat := 4
  /-- The keys that are held, and how long they will be. -/
  holds : Keyboard.Holds := .released
  /-- The display that was painted last. -/
  lastFrame : Display := ∅

namespace Terminal

/-- A number of frames for which a key cannot count as held. -/
structure HoldError where
  holdFrames : Int
  deriving DecidableEq, Repr

def HoldError.message (error : HoldError) : String :=
  Numeral.worded error.holdFrames ("hold_frames must be at least 1, got " ++ ·)

/-- A terminal on which keys count as held for a number of frames. -/
def create (holdFrames : Int) : Except HoldError Terminal :=
  if holdFrames < 1 then .error ⟨holdFrames⟩ else .ok { holdFrames := holdFrames.toNat }

/-! ## Painting -/

/-- The character of a lit or of a dark cell. -/
def cellChar (lit : Bool) : Char := if lit then '█' else ' '

/-- The sequence that moves the cursor to a cell.  Terminals count rows and
columns from one. -/
def moveTo (cell : Cell) : String :=
  "\x1b[" ++ Numeral.text (cell.y + 1) ++ ";" ++ Numeral.text (cell.x + 1) ++ "H"

def paintCell (cell : Cell) (lit : Bool) : String := moveTo cell ++ String.singleton (cellChar lit)

/-- The visible cells in which two displays differ, row by row, each with
whether it is lit in the second. -/
def changes (previous current : Display) : List (Cell × Bool) :=
  ((previous.symmDiff current).filter Cell.isVisible).toList.map fun cell =>
    (cell, current.contains cell)

/-- The text that shows a screen of its own, clears it and hides the cursor. -/
def enterText : String := "\x1b[?1049h\x1b[2J\x1b[?25l"

/-- The text that shows the cursor and leaves the screen. -/
def leaveText : String := "\x1b[?25h\x1b[?1049l"

/-- The text that starts a session, and the terminal after it. -/
def setup (terminal : Terminal) : String × Terminal :=
  (enterText, { terminal with lastFrame := ∅ })

/-- The text that paints a display, and the terminal after it. -/
def draw (terminal : Terminal) (display : Display) : String × Terminal :=
  (String.join ((changes terminal.lastFrame display).map fun change =>
      paintCell change.1 change.2),
    { terminal with lastFrame := display })

/-! ## Reading keys -/

/-- Takes typed text in, and says whether the session should go on. -/
def feed (terminal : Terminal) (text : String) : Bool × Terminal :=
  let (goesOn, holds) := Keyboard.feed terminal.holdFrames text.toList terminal.holds
  (goesOn, { terminal with holds := holds })

/-- The held keys after the text that has been typed since the last reading,
or nothing if it asks to quit.  Only a reading with keys counts as a frame. -/
def readKeys (terminal : Terminal) (text : String) : Option KeySet × Terminal :=
  let (goesOn, fed) := terminal.feed text
  if goesOn then (some fed.holds.keys, { fed with holds := fed.holds.age })
  else (none, fed)

/-- The terminal as a part of a world that takes output and delivers typed
text. -/
def frontend {m : Type → Type} [Monad m] [MonadStateOf Terminal m] (write : String → m Unit)
    (typed : m String) : Frontend m where
  setup := do
    let (text, terminal) := (← getThe Terminal).setup
    write text
    set terminal
    return .ok ()
  readKeys := do
    let (keys, terminal) := (← getThe Terminal).readKeys (← typed)
    set terminal
    return .ok keys
  draw display := do
    let (text, terminal) := (← getThe Terminal).draw display
    write text
    set terminal
    return .ok ()
  cleanup := write leaveText

end Terminal

end Chip8
