import Chip8.Machine.Execute

/-!
# The machine cycle

A cycle fetches the word at the counter, moves the counter past it, and
executes the word with the given keys down.  If the instruction faults, the
counter and the keypad are put back and the fault learns its place; a failure
leaves them as they are.
-/

namespace Chip8.Machine

/-- Whether a whole instruction lies in memory at the counter. -/
def canFetch (machine : Machine) : Bool :=
  0 ≤ machine.counter && machine.counter + 1 < memorySize

def wordAtCounter (machine : Machine) : Word :=
  .ofBytes (machine.memory.read machine.counter.toNat)
    (machine.memory.read (machine.counter.toNat + 1))

/-- The fault of fetching an instruction outside the memory. -/
def fetchFault (machine : Machine) : Fault where
  cause := .fetchOutside
  address := some machine.counter

/-- The machine with the counter moved past the instruction at work. -/
def stepOver (machine : Machine) : Machine :=
  { machine with counter := machine.counter + 2 }

/-- Fetch the word at the counter and move the counter past it. -/
def fetch (machine : Machine) : Except Fault (Word × Machine) :=
  if machine.canFetch then .ok (machine.wordAtCounter, machine.stepOver)
  else .error machine.fetchFault

def holding (machine : Machine) (keys : KeySet) : Machine :=
  { machine with keypad := keys }

/-- Execute a word, if wanted with other keys than before. -/
def executeWord (machine : Machine) (word : Word) (keys : Option KeySet) : Outcome :=
  let ready := match keys with
    | some keys => machine.holding keys
    | none => machine
  ready.execute (.ofWord word)

def cycle (machine : Machine) (keys : KeySet) : Outcome :=
  if machine.canFetch then
    let word := machine.wordAtCounter
    match machine.stepOver.executeWord word (some keys) with
    | .fault fault after =>
        .fault
          { fault with
            address := some machine.counter
            instruction := some word.toNat }
          { after with counter := machine.counter, keypad := machine.keypad }
    | outcome => outcome
  else .fault machine.fetchFault machine

/-- Runs cycles with the same keys until one of them does not succeed.  The
number of complete cycles is added to `ran`. -/
def cycles (keys : KeySet) : Nat → Nat → Machine → Nat × Outcome
  | 0, ran, machine => (ran, .done machine)
  | count + 1, ran, machine =>
      match machine.cycle keys with
      | .done next => cycles keys count (ran + 1) next
      | outcome => (ran, outcome)

end Chip8.Machine
