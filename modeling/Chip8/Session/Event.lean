import Chip8.Fault
import Chip8.Value

/-!
# Events of a session

A session tells its observers when it starts, after each frame, at each fault
and when it has ended.
-/

namespace Chip8

/-- Named values that describe the course of a session. -/
abbrev Metrics := List (String × Value)

namespace Session

/-- What a session reports to its observers. -/
inductive Event where
  /-- The session is about to start with these settings. -/
  | started (settings : List (String × Value))
  /-- A frame has been drawn; frames are counted from one. -/
  | frame (number : Nat) (metrics : Metrics)
  /-- A cycle has raised a fault after this many complete frames. -/
  | fault (frames : Nat) (fault : Fault)
  | ended (metrics : Metrics)

end Session

end Chip8
