import Chip8.Text.Numeral
import Chip8.Value

/-!
# The supply of frames

A session asks its supply for one frame after the other, up to a limit if
there is one.  A supply can be tracked by a progress bar.  The bar opens when
the first frame is asked for, moves on when a further frame is asked for, and
closes when the frames are used up or the supply is closed.
-/

namespace Chip8

structure Bar where
  /-- The number of steps to be made. -/
  total : Int
  description : String
  /-- What else is asked for about its looks. -/
  options : List (String × Value) := []
  updates : Nat := 0
  /-- How often the bar has been closed. -/
  closings : Nat := 0

namespace Bar

def unit : String := "frame"

/-- The text beside a bar of frames if nothing else is asked for. -/
def usualDescription (frames : Int) : String :=
  "Emulating (" ++ Numeral.grouped frames ++ " frames)"

/-- A bar over a number of frames.  The total of a bar is the number of
frames, whatever its options say. -/
def ofFrames (frames : Int) (description : Option String) (options : List (String × Value)) :
    Bar :=
  { total := frames
    description := description.getD (usualDescription frames)
    options := options.filter fun option =>
      option.1 ≠ "total" && option.1 ≠ "iterable" }

def advance (bar : Bar) : Bar := { bar with updates := bar.updates + 1 }

def close (bar : Bar) : Bar := { bar with closings := bar.closings + 1 }

end Bar

structure FrameSupply where
  /-- The number of frames, if there is a limit. -/
  limit : Option Int
  /-- The bar that is to be opened with the first frame. -/
  tracker : Option Bar := none
  /-- The number of frames handed out. -/
  given : Nat := 0
  /-- Whether the supply has come to its end. -/
  finished : Bool := false
  /-- The bar, once it is open. -/
  bar : Option Bar := none

namespace FrameSupply

def plain (limit : Option Int) : FrameSupply := { limit := limit }

def tracked (frames : Int) (description : Option String)
    (options : List (String × Value)) : FrameSupply :=
  { limit := some frames, tracker := some (.ofFrames frames description options) }

def hasNext (supply : FrameSupply) : Bool :=
  supply.limit.all fun limit => (supply.given : Int) < limit

def movedBar (supply : FrameSupply) : Option Bar :=
  if supply.given = 0 then supply.tracker else supply.bar.map Bar.advance

/-- The next frame, if there is one, and the supply after it. -/
def next (supply : FrameSupply) : Option Nat × FrameSupply :=
  if supply.finished then (none, supply)
  else if supply.hasNext then
    (some supply.given, { supply with given := supply.given + 1, bar := supply.movedBar })
  else (none, { supply with finished := true, bar := supply.movedBar.map Bar.close })

def close (supply : FrameSupply) : FrameSupply :=
  if supply.finished then supply
  else { supply with finished := true, bar := supply.bar.map Bar.close }

/-- The first frames of a supply, at most as many as asked for, and the supply
after them. -/
def take : Nat → FrameSupply → List Nat × FrameSupply
  | 0, supply => ([], supply)
  | count + 1, supply =>
      match supply.next with
      | (none, after) => ([], after)
      | (some frame, after) =>
          let (frames, last) := take count after
          (frame :: frames, last)

end FrameSupply

end Chip8
