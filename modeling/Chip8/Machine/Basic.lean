import Chip8.Bytes
import Chip8.Display
import Chip8.Font
import Chip8.Random.Source
import Chip8.Word

/-!
# The state of a machine

A machine has 4096 bytes of memory, sixteen byte registers, a program counter,
an index, a call stack, two timers, a display and a keypad.  The counters are
integers: a running program can move them outside the memory, and the
instruction that then needs the memory reports a fault.
-/

namespace Chip8

def memorySize : Nat := 4096

/-- The address of the first byte of a program. -/
def programStart : Nat := 0x200

/-- The codes of the keys that are down. -/
abbrev KeySet := SortedSet Int

/-- The state of a machine. -/
structure Machine where
  memory : Bytes memorySize
  registers : Bytes 16
  /-- The address of the next instruction. -/
  counter : Int
  /-- The address that drawing, storing and loading start from. -/
  index : Int
  /-- The return addresses, the latest first. -/
  stack : List Int
  /-- The greatest number of return addresses, if there is one. -/
  stackLimit : Option Int
  /-- The timer that a program can read. -/
  delayTimer : Int
  soundTimer : Int
  display : Display
  /-- The keys that are down for the instruction at work. -/
  keypad : KeySet
  random : RandomSource

namespace Machine

/-- The memory of a new machine holds the font and zeros. -/
def initialMemory : Bytes memorySize :=
  (Bytes.zeros memorySize).overwrite Font.start Font.glyphs

def initial (random : RandomSource) (stackLimit : Option Int) : Machine where
  memory := initialMemory
  registers := .zeros 16
  counter := programStart
  index := 0
  stack := []
  stackLimit := stackLimit
  delayTimer := 0
  soundTimer := 0
  display := ∅
  keypad := ∅
  random := random

/-- Why a machine could not be built. -/
inductive BuildError where
  /-- A stack limit is at least one. -/
  | stackLimit (limit : Int)
  /-- There is no such source of random bytes. -/
  | random (error : RandomSource.BuildError)
  deriving DecidableEq, Repr

namespace BuildError

def message : BuildError → String
  | stackLimit limit =>
      Numeral.worded limit ("stack_limit must be positive or None, got " ++ ·)
  | random error => error.message

end BuildError

/-- A new machine with the given source of random bytes.  The stack limit is
looked at before the source. -/
def create (random : Except RandomSource.BuildError RandomSource)
    (stackLimit : Option Int) : Except BuildError Machine :=
  match stackLimit.filter (· < 1), random with
  | some limit, _ => .error (.stackLimit limit)
  | none, .error error => .error (.random error)
  | none, .ok source => .ok (initial source stackLimit)

def register (machine : Machine) (number : Fin 16) : UInt8 :=
  machine.registers[number]

/-- The machine with a byte stored in a register. -/
def setRegister (machine : Machine) (number : Fin 16) (value : UInt8) : Machine :=
  { machine with registers := machine.registers.set number value }

/-- The register that takes the flag of an operation. -/
def flagRegister : Fin 16 := 15

/-- The machine with a flag stored in the flag register. -/
def setFlag (machine : Machine) (flag : Bool) : Machine :=
  machine.setRegister flagRegister (if flag then 1 else 0)

/-- The machine with both timers counted down by one, not below zero. -/
def countDown (machine : Machine) : Machine :=
  { machine with
    delayTimer := max (machine.delayTimer - 1) 0
    soundTimer := max (machine.soundTimer - 1) 0 }

def programCapacity : Nat := memorySize - programStart

/-- Why a program could not be loaded. -/
inductive LoadError where
  /-- The program has more bytes than fit. -/
  | tooLong (size : Nat)
  deriving DecidableEq, Repr

namespace LoadError

def message : LoadError → String
  | tooLong size =>
      "ROM is " ++ Numeral.text size ++ " bytes, at most " ++
        Numeral.text programCapacity ++ " fit in memory"

end LoadError

/-- The machine with a program stored in its memory. -/
def load (machine : Machine) (program : List UInt8) : Except LoadError Machine :=
  if memorySize < programStart + program.length then
    .error (.tooLong program.length)
  else
    .ok { machine with memory := machine.memory.overwrite programStart program }

end Machine

end Chip8
