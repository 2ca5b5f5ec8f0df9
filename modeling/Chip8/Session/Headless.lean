import Chip8.Session.Desk
import Chip8.Session.Run

/-!
# Headless sessions

A headless session runs a number of frames as fast as it can, with scripted
keys, and keeps every display that is drawn.
-/

namespace Chip8.Session

variable {m : Type → Type} [Monad m]

/-- Runs frames on a new headless front-end.  The displays are on the desk
afterwards. -/
def runHeadless (devices : Devices (StateT Desk m)) (config : Config) (frames : Int)
    (schedule : Nat → KeySet) (progress : Bool) (machine : Machine) : StateT Desk m Result := do
  set ({ schedule := schedule } : Headless)
  run { devices with frontend := Headless.frontend } { config with fps := 0 } (some frames)
    progress 0 { machine := machine }

end Chip8.Session
