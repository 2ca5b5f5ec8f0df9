import Chip8.Failure
import Chip8.Machine.Basic

/-!
# Front-ends

A front-end shows the display of a machine and says which keys are held.  It
may be a device of its own or a part of a larger world, so its operations are
actions of a monad.
-/

namespace Chip8

/-- A front-end of a machine. -/
structure Frontend (m : Type → Type) where
  /-- Prepares the device before the first frame. -/
  setup : m (Except Failure Unit)
  /-- The held keys, or nothing if the session should stop. -/
  readKeys : m (Except Failure (Option KeySet))
  /-- Shows the display after a frame. -/
  draw : Display → m (Except Failure Unit)
  cleanup : m Unit

namespace Frontend

variable {m : Type → Type} [Monad m]

/-- The front-end that can be set up and released, and nothing else. -/
def bare : Frontend m where
  setup := pure (.ok ())
  readKeys := pure (.error .unsupported)
  draw _ := pure (.error .unsupported)
  cleanup := pure ()

/-- The operations of a front-end that can fail. -/
inductive Operation where
  | setup
  | readKeys
  | draw
  deriving DecidableEq, Repr

def failing (frontend : Frontend m) (operation : Operation) (report : String) : Frontend m :=
  match operation with
  | .setup => { frontend with setup := pure (.error (.device report)) }
  | .readKeys => { frontend with readKeys := pure (.error (.device report)) }
  | .draw => { frontend with draw := fun _ => pure (.error (.device report)) }

end Frontend

end Chip8
