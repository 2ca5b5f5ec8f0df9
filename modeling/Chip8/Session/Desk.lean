import Chip8.Frontend.Headless
import Chip8.Frontend.Terminal
import Chip8.Frontend.Window
import Chip8.Statistics

/-!
# The desk

A desk holds the state of every front-end and of the running statistics.  A
session runs on top of a desk, whatever lies below it.
-/

namespace Chip8

/-- The front-ends and the statistics of a session. -/
structure Desk where
  headless : Headless := {}
  terminal : Terminal := {}
  window : Window := {}
  statistics : Statistics := {}

namespace Desk

variable {m : Type → Type} [Monad m]

@[reducible]
def part {α : Type} (get : Desk → α) (put : Desk → α → Desk) :
    MonadStateOf α (StateT Desk m) where
  get := do return get (← StateT.get)
  set value := do StateT.set (put (← StateT.get) value)
  modifyGet change := do
    let desk ← StateT.get
    let (result, value) := change (get desk)
    StateT.set (put desk value)
    return result

instance : MonadStateOf Headless (StateT Desk m) :=
  part Desk.headless fun desk headless => { desk with headless := headless }

instance : MonadStateOf Terminal (StateT Desk m) :=
  part Desk.terminal fun desk terminal => { desk with terminal := terminal }

instance : MonadStateOf Window (StateT Desk m) :=
  part Desk.window fun desk window => { desk with window := window }

def count (event : Session.Event) : StateT Desk m (Except Failure Unit) := do
  let desk ← StateT.get
  match desk.statistics.observe event with
  | .ok statistics =>
      StateT.set { desk with statistics := statistics }
      return .ok ()
  | .error failure => return .error failure

end Desk

end Chip8
