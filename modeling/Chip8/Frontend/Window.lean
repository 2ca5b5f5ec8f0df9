import Chip8.Frontend.Basic
import Chip8.Frontend.Layout
import Chip8.Frontend.Surface

/-!
# The window front-end

A window reports when keys go down and up, so a key is held in between.
Closing the window and the escape key ask to quit.
-/

namespace Chip8

structure Window where
  /-- The size of a cell in points. -/
  scale : Int := 16
  palette : Palette := .classic
  caption : String := "chipvm"
  /-- What the window shows, once it is open. -/
  surface : Option Surface := none
  held : KeySet := ∅

namespace Window

/-- A key of the keyboard, as far as a window tells them apart. -/
inductive Stroke where
  | escape
  | typed (char : Char)
  | other
  deriving DecidableEq, Repr

/-- What happens to a window. -/
inductive Event where
  | down (stroke : Stroke)
  | up (stroke : Stroke)
  | quit
  /-- Anything else, such as a movement of the pointer. -/
  | other
  deriving DecidableEq, Repr

namespace Stroke

/-- The key of the keypad that a stroke stands for. -/
def key? : Stroke → Option Key
  | typed char => Layout.find? char
  | escape | other => none

end Stroke

def Event.quits : Event → Bool
  | quit => true
  | down stroke => stroke = .escape
  | up _ | other => false

def Event.change (event : Event) (held : KeySet) : KeySet :=
  match event with
  | down stroke => (stroke.key?.map fun key => held.insert (Layout.code key)).getD held
  | up stroke => (stroke.key?.map fun key => held.erase (Layout.code key)).getD held
  | quit | other => held

/-- The keys that are down after some events.  The first component says
whether the session should go on; what follows a request to quit is lost. -/
def follow : List Event → KeySet → Bool × KeySet
  | [], held => (true, held)
  | event :: rest, held =>
      if event.quits then (false, held) else follow rest (event.change held)

def create (scale : Int) (scheme caption : String) : Except PaintError Window := do
  return { scale := scale, palette := ← Palette.get scheme, caption := caption }

/-- The surface of a window that has just been opened. -/
def blank (window : Window) : Surface :=
  { width := (screenWidth * window.scale).toNat
    height := (screenHeight * window.scale).toNat
    filling := window.palette.dark }

def setup (window : Window) : Window := { window with surface := some window.blank }

/-- The keys that are down after the pending events, or nothing if one of them
asks to quit. -/
def readKeys (window : Window) (events : List Event) : Option KeySet × Window :=
  let (goesOn, held) := follow events window.held
  (if goesOn then some held else none, { window with held := held })

/-- The square of a cell. -/
def square (window : Window) (cell : Cell) : Rectangle :=
  { left := cell.x * window.scale
    top := cell.y * window.scale
    width := window.scale
    height := window.scale
    color := window.palette.lit }

def paint (window : Window) (surface : Surface) (display : Display) : Surface :=
  (display.filter Cell.isVisible).toList.foldl
    (fun surface cell => surface.paint (window.square cell))
    (surface.fill window.palette.dark)

def draw (window : Window) (display : Display) : Except Failure Window :=
  match window.surface with
  | none => .error .windowClosed
  | some surface => .ok { window with surface := some (window.paint surface display) }

/-- The window as a part of a world that delivers events. -/
def frontend {m : Type → Type} [Monad m] [MonadStateOf Window m] (events : m (List Event)) :
    Frontend m where
  setup := do
    modifyThe Window setup
    return .ok ()
  readKeys := do
    let (keys, window) := (← getThe Window).readKeys (← events)
    set window
    return .ok keys
  draw display := do
    match (← getThe Window).draw display with
    | .ok window =>
        set window
        return .ok ()
    | .error failure => return .error failure
  cleanup := pure ()

end Window

end Chip8
