import Chip8.Scripted.World

/-!
# Rehearsals

A rehearsal runs sessions in a scripted world, one after the other on the same
machine, and records every event.
-/

namespace Chip8.Scripted

inductive Stage where
  | headless
  /-- The front-end that cannot do anything. -/
  | bare
  /-- A headless front-end whose device may fail. -/
  | broken (operation : Option Frontend.Operation)
  | terminal
  deriving DecidableEq, Repr

structure Rehearsal where
  stage : Stage := .headless
  config : Config := {}
  /-- Whether a bar tracks the frames. -/
  progress : Bool := false
  /-- A logger that follows the session, with its interval. -/
  logger : Option (Logger × Int) := none

namespace Rehearsal

/-- Sessions run on a desk in a world. -/
abbrev Play := StateT Desk (StateM World)

def breakdown : String := "device lost"

def frontend : Stage → Frontend Play
  | .headless => Headless.frontend
  | .bare => Frontend.bare
  | .terminal =>
      Terminal.frontend (fun text => StateT.lift (World.write text)) (StateT.lift World.nextTyped)
  | .broken operation =>
      let counting : Frontend Play :=
        { (Headless.frontend : Frontend Play) with
          cleanup := StateT.lift (modify fun world =>
            { world with cleanups := world.cleanups + 1 }) }
      match operation with
      | some operation => counting.failing operation breakdown
      | none => counting

/-- The devices of a rehearsal. -/
def devices (rehearsal : Rehearsal) : Devices Play where
  frontend := frontend rehearsal.stage
  now := StateT.lift World.now
  sleep seconds := StateT.lift (World.sleep seconds)
  notify event := do
    StateT.lift (World.addEvent event)
    match ← Desk.count event with
    | .error failure => return .error failure
    | .ok () =>
        match rehearsal.logger with
        | none => return .ok ()
        | some (logger, interval) =>
            StateT.lift (logger.observe World.logSink interval event)

def noteBar (result : Session.Result) : Play Unit :=
  match result.bar with
  | some bar => StateT.lift (World.addBar bar)
  | none => pure ()

def perform (rehearsal : Rehearsal) : List (Option Int) → Session →
    Play (Session × Option Failure)
  | [], session => return (session, none)
  | limit :: rest, session => do
      let result ← session.run rehearsal.devices rehearsal.config limit rehearsal.progress
        CommandLine.patience
      noteBar result
      match result.ending.failure? with
      | some failure => return (result.session, some failure)
      | none => rehearsal.perform rest result.session

/-- Runs headless sessions one after the other, until a failure, and gives all
displays of the complete ones. -/
def performHeadless (rehearsal : Rehearsal) (schedule : Nat → KeySet) : List Int → Machine →
    Play (Machine × List Display × Option Failure)
  | [], machine => return (machine, [], none)
  | frames :: rest, machine => do
      let result ← Session.runHeadless rehearsal.devices rehearsal.config frames schedule
        rehearsal.progress machine
      noteBar result
      match result.ending.failure? with
      | some failure => return (result.session.machine, [], some failure)
      | none =>
          let drawn := (← getThe Headless).frames
          let (machine, later, failure) ← rehearsal.performHeadless schedule rest
            result.session.machine
          return (machine, drawn ++ later, failure)

end Rehearsal

end Chip8.Scripted
