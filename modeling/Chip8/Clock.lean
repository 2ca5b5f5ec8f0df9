/-!
# Clocks that follow a script

A scripted clock shows the given times one after the other and then goes on in
equal steps.  Sleeping is recorded and, if wanted, moves the clock forward.
-/

namespace Chip8

/-- A clock that follows a script. -/
structure Clock where
  /-- The times that are still to be shown. -/
  times : List Float := []
  /-- The step after the last of them. -/
  step : Float := 0
  advances : Bool := false
  time : Float := 0
  /-- Whether the clock has been read. -/
  started : Bool := false
  /-- The sleeps so far, the latest first. -/
  sleeps : List Float := []
  deriving Inhabited

namespace Clock

/-- The time, and the clock after it is read. -/
def read (clock : Clock) : Float × Clock :=
  match clock.times with
  | time :: rest => (time, { clock with times := rest, time := time, started := true })
  | [] =>
      let time := if clock.started then clock.time + clock.step else clock.time
      (time, { clock with time := time, started := true })

def sleep (clock : Clock) (seconds : Float) : Clock :=
  { clock with
    sleeps := seconds :: clock.sleeps
    time := if clock.advances then clock.time + seconds else clock.time }

end Clock

end Chip8
