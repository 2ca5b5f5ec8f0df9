import Chip8.Frontend.Basic

/-!
# The headless front-end

The headless front-end has no device.  Its keys follow a schedule, and it
keeps every display that is drawn.
-/

namespace Chip8

/-- A front-end without a device. -/
structure Headless where
  /-- The keys that are held in a frame. -/
  schedule : Nat → KeySet := fun _ => ∅
  /-- The number of frames after which the session should stop. -/
  limit : Option Int := none
  /-- The number of frames for which keys have been read. -/
  frame : Nat := 0
  /-- The displays drawn so far, the latest first. -/
  drawn : List Display := []

namespace Headless

def frames (headless : Headless) : List Display := headless.drawn.reverse

/-- The keys of the next frame, unless the limit is reached. -/
def readKeys (headless : Headless) : Option KeySet × Headless :=
  if headless.limit.any fun limit => limit ≤ (headless.frame : Int) then (none, headless)
  else (some (headless.schedule headless.frame), { headless with frame := headless.frame + 1 })

def draw (headless : Headless) (display : Display) : Headless :=
  { headless with drawn := display :: headless.drawn }

/-- The headless front-end as a part of a world. -/
def frontend {m : Type → Type} [Monad m] [MonadStateOf Headless m] : Frontend m where
  setup := pure (.ok ())
  readKeys := do
    let (keys, headless) := (← getThe Headless).readKeys
    set headless
    return .ok keys
  draw display := do
    modifyThe Headless (·.draw display)
    return .ok ()
  cleanup := pure ()

end Headless

end Chip8
