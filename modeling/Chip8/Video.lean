import Chip8.Clock
import Chip8.Picture

/-!
# Videos

A video shows one picture per screen, in a file, in a window or in both.  Lit
cells can fade: each frame keeps four fifths of the glow of the one before.
In a window, `q` and Escape end the video and the space bar pauses it.

A video is made in a studio, which does what is asked for to the file and to the
window, shows the time and sleeps.  All of this may fail.  Once the frames have
begun, the file and the window are closed whichever way the frames end.
-/

namespace Chip8.Video

structure Options where
  /-- The file to write, if any. -/
  filename : Option String := none
  /-- The number of frames in a second. -/
  fps : Float := 60
  /-- The size of a cell in picture points. -/
  scale : Int := 8
  colorScheme : String := "classic"
  persistence : Bool := true
  /-- Whether the video is shown in a window. -/
  display : Bool := false

/-- What happens to the file and the window. -/
inductive Event where
  /-- A coding is chosen for the file. -/
  | coding (name : String)
  /-- The file is opened for pictures of a width and a height. -/
  | openFile (filename : String) (fps : Float) (width height : Int)
  /-- A picture is written to the file. -/
  | write (picture : Picture)
  | release
  | openWindow
  /-- A text is drawn on the picture in the window. -/
  | caption (text : String)
  /-- A picture is shown in the window. -/
  | present (picture : Picture)
  | await (milliseconds : Nat) (key : Int)
  | closeWindows

/-- Why a video could not be made. -/
inductive Problem where
  | paint (error : PaintError)
  /-- There are no frames in a second. -/
  | noRate
  /-- The studio does not do what it is asked for. -/
  | failure (failure : Failure)
  deriving DecidableEq, Repr

/-! ## The pictures -/

abbrev Glow := Vector Float32 (screenWidth * screenHeight)

/-- The part of the glow that is left after a frame. -/
def decay : Float32 := 0.8

/-- The glow of a cell, of a lit or a dark one. -/
def freshGlow (isLit : Bool) : Float32 := if isLit then 1 else 0

def clip (glow : Float32) : Float32 := if glow < 0 then 0 else if 1 < glow then 1 else glow

def nextGlow (persistence : Bool) (glow : Glow) (grid : Grid) : Glow :=
  if persistence then
    Vector.zipWith (fun old isLit => clip (old * decay + freshGlow isLit)) glow grid.cells
  else grid.cells.map freshGlow

/-- The same glow in double precision: its digits times a power of two. -/
def widen (glow : Float32) : Float :=
  let exponent := glow.toBits >>> 23
  let fraction := glow.toBits &&& 0x7fffff
  let (digits, power) :=
    -- the digits of the smallest numbers have no leading one
    if exponent = 0 then (fraction, 1) else (fraction ||| 0x800000, exponent)
  digits.toUInt64.toFloat * Float.ofBits ((power.toUInt64 + 873) <<< 52)

/-- The part of a colour at a glow between the dark and the lit colour. -/
def blend (dark lit : UInt8) (glow : Float32) : UInt8 :=
  let low := Float.ofNat dark.toNat
  (low + widen glow * (Float.ofNat lit.toNat - low)).toUInt8

def glowColor (palette : Palette) (glow : Float32) : Color :=
  ⟨blend palette.dark.red palette.lit.red glow,
    blend palette.dark.green palette.lit.green glow,
    blend palette.dark.blue palette.lit.blue glow⟩

def glowPicture (palette : Palette) (glow : Glow) : Picture :=
  (List.range screenHeight).map fun row =>
    (List.range screenWidth).map fun column =>
      glowColor palette (glow.getD (row * screenWidth + column) 0)

/-- The pictures of a list of grids.  A scale below two leaves each cell one
point wide. -/
def pictures (options : Options) (palette : Palette) (glow : Glow) :
    List Grid → List Picture
  | [] => []
  | grid :: rest =>
      let next := nextGlow options.persistence glow grid
      (glowPicture palette next).enlarge (max options.scale 1).toNat ::
        pictures options palette next rest

/-! ## Playing -/

/-- The keys that end a video. -/
def isQuit (key : Int) : Bool := key % 256 = 113 || key % 256 = 27

/-- The key that pauses a video. -/
def isSpace (key : Int) : Bool := key % 256 = 32

/-- What waiting for a key gives when no key is left: nothing in the short wait
of a frame, and `q` in the long wait of a pause. -/
def noKey : Int := -1

/-- The key that ends a pause when no key is left. -/
def lastKey : Int := 113

/-- The surroundings of a video. -/
structure Studio (m : Type → Type) where
  /-- Does something to the file or to the window. -/
  perform : Event → m (Except Failure Unit)
  now : m Float
  /-- Waits for a number of seconds. -/
  sleep : Float → m (Except Failure Unit)

/-- Events on the file and on the window, as far as a video is made with them. -/
def wanted (options : Options) (onFile onWindow : List Event) : List Event :=
  (if (options.filename.getD "").isEmpty then [] else onFile) ++
    if options.display then onWindow else []

/-- How a video opens what it is made with. -/
def openings (options : Options) : List Event :=
  wanted options
    [.coding "mp4v",
      .openFile (options.filename.getD "") options.fps (screenWidth * options.scale)
        (screenHeight * options.scale)]
    [.openWindow]

/-- How a video closes what it was made with. -/
def closings (options : Options) : List Event :=
  wanted options [.release] [.closeWindows]

def captionText (number total : Nat) : String :=
  "Frame " ++ Numeral.text (number + 1) ++ "/" ++ Numeral.text total

namespace Studio

variable {m : Type → Type} [Monad m] (studio : Studio m)

/-- What the studio is asked for, or a problem of the video. -/
def attempt (answer : m (Except Failure Unit)) : ExceptT Problem m Unit :=
  ExceptT.mk do return (← answer).mapError .failure

def performAll : List Event → ExceptT Problem m Unit
  | [] => return ()
  | event :: rest => do
      attempt (studio.perform event)
      performAll rest

/-- Waits until a key ends a pause.  The keys that are left, and whether the key
ends the video too. -/
def pause : List Int → ExceptT Problem m (List Int × Bool)
  | [] => do
      attempt (studio.perform (.await 30 lastKey))
      return ([], true)
  | key :: rest => do
      attempt (studio.perform (.await 30 key))
      if isSpace key then return (rest, false)
      else if isQuit key then return (rest, true)
      else pause rest

/-- Waits behind a frame.  The keys that are left, and whether a key ends the
video. -/
def waits (keys : List Int) : ExceptT Problem m (List Int × Bool) := do
  let key := keys.headD noKey
  attempt (studio.perform (.await 1 key))
  if isQuit key then return (keys.tail, true)
  else if isSpace key then studio.pause keys.tail
  else return (keys.tail, false)

/-- Waits for the rest of the time that a frame has had since its start. -/
def rest (options : Options) (start : Float) : ExceptT Problem m Unit := do
  let stop ← ExceptT.lift studio.now
  let spare := 1 / options.fps - (stop - start)
  if 0 < spare then
    attempt (studio.sleep spare)

def playFrames (options : Options) (total : Nat) :
    Nat → List Picture → List Int → ExceptT Problem m Unit
  | _, [], _ => return ()
  | number, picture :: others, keys => do
      let start ← ExceptT.lift studio.now
      studio.performAll
        (wanted options [.write picture]
          [.caption (captionText number total), .present picture])
      if options.display then
        let (left, quits) ← studio.waits keys
        if quits then return ()
        else
          studio.rest options start
          playFrames options total (number + 1) others left
      else playFrames options total (number + 1) others keys

def playGrids (options : Options) (palette : Palette) (grids : List Grid) (keys : List Int) :
    ExceptT Problem m Unit := do
  studio.performAll (openings options)
  if options.display && options.fps == 0 then throw .noRate
  let dark : Glow := Vector.replicate _ 0
  let played ← ExceptT.lift
    (studio.playFrames options grids.length 0 (pictures options palette dark grids) keys).run
  studio.performAll (closings options)
  ExceptT.mk (pure played)

/-- Makes a video of screens.  Without screens, and without a file or a window,
nothing happens.  The shapes of all screens are looked at first, then the
palette. -/
def film (options : Options) (screens : List Screen) (keys : List Int) :
    ExceptT Problem m Unit :=
  if screens.isEmpty || (options.filename.isNone && !options.display) then return ()
  else
    match screens.mapM Screen.grid with
    | .error error => throw (.paint error)
    | .ok grids =>
        match Palette.get options.colorScheme with
        | .error error => throw (.paint error)
        | .ok palette => studio.playGrids options palette grids keys

end Studio

def windowName : String := "CHIP-8 Video (q=quit, space=pause)"

/-! ## Playing by a script -/

/-- A studio that follows a script. -/
structure Reel where
  /-- What has been done so far. -/
  events : List Event := []
  clock : Clock := {}
  /-- The failure of something that is to be done behind other events. -/
  fails : List Event → Event → Option Failure := fun _ _ => none
  /-- Whether a time is too long to sleep. -/
  refuses : Float → Bool := fun _ => false

namespace Reel

def perform (reel : Reel) (event : Event) : Except Failure Unit × Reel :=
  match reel.fails reel.events event with
  | some failure => (.error failure, reel)
  | none => (.ok (), { reel with events := reel.events ++ [event] })

def sleep (reel : Reel) (seconds : Float) : Except Failure Unit × Reel :=
  if reel.refuses seconds then (.error .sleepTooLong, reel)
  else (.ok (), { reel with clock := reel.clock.sleep seconds })

def now (reel : Reel) : Float × Reel :=
  (reel.clock.read.1, { reel with clock := reel.clock.read.2 })

def studio : Studio (StateM Reel) where
  perform event reel := reel.perform event
  now reel := reel.now
  sleep seconds reel := reel.sleep seconds

end Reel

structure Result where
  events : List Event := []
  clock : Clock
  problem : Option Problem := none

def Reel.play (reel : Reel) (options : Options) (screens : List Screen) (keys : List Int) :
    Result :=
  let (outcome, after) := (Reel.studio.film options screens keys).run.run reel
  { events := after.events
    clock := after.clock
    problem := match outcome with
      | .error problem => some problem
      | .ok () => none }

/-- Makes a video of screens with a script of keys and a clock.  Sleeps can be
refused. -/
def play (options : Options) (screens : List Screen) (keys : List Int) (clock : Clock)
    (refuses : Float → Bool := fun _ => false) : Result :=
  Reel.play { clock := clock, refuses := refuses } options screens keys

end Chip8.Video
