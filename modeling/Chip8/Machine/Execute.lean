import Chip8.Failure
import Chip8.Fault
import Chip8.Instruction
import Chip8.Machine.Basic

/-!
# Executing an instruction

Executing an instruction leaves a machine and possibly a trap: a fault of the
running program, or a failure of its surroundings.  The outcome of a trap also
holds the machine as the instruction left it.
-/

namespace Chip8

inductive Outcome where
  | done (machine : Machine)
  /-- The running program made a mistake. -/
  | fault (fault : Fault) (machine : Machine)
  /-- The surroundings of the machine failed. -/
  | failure (failure : Failure) (machine : Machine)

namespace Outcome

def machine : Outcome → Machine
  | done machine => machine
  | fault _ machine => machine
  | failure _ machine => machine

end Outcome

namespace Machine

/-- Whether `length` bytes from `start` on lie in memory.  An empty range
always does. -/
def inMemory (start length : Int) : Bool :=
  length ≤ 0 || (0 ≤ start && start + length ≤ memorySize)

/-- The cause of a fault if the range does not lie in memory. -/
def checkRange (start length : Int) : Option Fault.Cause :=
  if inMemory start length then none else some (.accessOutside start length)

/-- Continue with `next` if `length` bytes from the index on lie in memory. -/
def withRange (machine : Machine) (length : Nat) (next : Machine → Machine) : Outcome :=
  match checkRange machine.index length with
  | none => .done (next machine)
  | some cause => .fault { cause := cause } machine

/-- Store an integer in a register, if it is a byte. -/
def storeInteger (machine : Machine) (register : Register) (value : Int) : Outcome :=
  if 0 ≤ value ∧ value ≤ 255 then
    .done (machine.setRegister register (UInt8.ofNat value.toNat))
  else .failure (.notAByte value) machine

/-- Push the low sixteen bits of an address on the stack. -/
def push (machine : Machine) (address : Int) : Outcome :=
  match machine.stackLimit with
  | some limit =>
      if limit ≤ machine.stack.length then
        .fault { cause := .stackFull limit } machine
      else .done { machine with stack := address % 65536 :: machine.stack }
  | none => .done { machine with stack := address % 65536 :: machine.stack }

/-- The latest return address and the machine without it, if there is one. -/
def pop? (machine : Machine) : Option (Int × Machine) :=
  match machine.stack with
  | [] => none
  | address :: rest => some (address, { machine with stack := rest })

def skipNext (machine : Machine) : Machine :=
  { machine with counter := machine.counter + 2 }

def meets (machine : Machine) : Condition → Bool
  | .holds register value => machine.register register = value
  | .agree first second => machine.register first = machine.register second
  | .pressed register => machine.keypad.contains (machine.register register).toNat

/-- Combine two registers.  The flag is stored after the result. -/
def combine (machine : Machine) (operation : Arithmetic) (first second : Register) :
    Machine :=
  let left := machine.register first
  let right := machine.register second
  let combined := machine.setRegister first (operation.result left right)
  match operation.flag? left right with
  | none => combined
  | some flag => combined.setFlag flag

def drawSprite (machine : Machine) (x y : Int) (sprite : Sprite) : Machine :=
  { machine with display := machine.display.draw x y sprite }

/-- Draw the sprite at the index and store in the flag whether a lit cell was
turned off.  The place is taken modulo the size of the screen. -/
def drawAtIndex (machine : Machine) (column row : Register) (height : Nat) : Machine :=
  let x : Int := (machine.register column).toNat % screenWidth
  let y : Int := (machine.register row).toNat % screenHeight
  let sprite := machine.memory.slice machine.index.toNat height
  (machine.drawSprite x y sprite).setFlag (machine.display.hits x y sprite)

def decimalDigits (value : UInt8) : List UInt8 :=
  [value / 100, value / 10 % 10, value % 10]

def storeAtIndex (machine : Machine) (bytes : List UInt8) : Machine :=
  { machine with memory := machine.memory.overwrite machine.index.toNat bytes }

/-- Move the index forward. -/
def moveIndex (machine : Machine) (distance : Nat) : Machine :=
  { machine with index := machine.index + distance }

/-- Execute an instruction.  The counter already points past it. -/
def execute (machine : Machine) : Instruction → Outcome
  | .ignore => .done machine
  | .clearScreen => .done { machine with display := ∅ }
  | .returnToCaller =>
      match machine.pop? with
      | none => .fault { cause := .stackEmpty } machine
      | some (address, popped) => .done { popped with counter := address }
  | .jump target => .done { machine with counter := target }
  | .call target =>
      match machine.push machine.counter with
      | .done pushed => .done { pushed with counter := target }
      | trapped => trapped
  | .skip condition wanted =>
      .done (if machine.meets condition = wanted then machine.skipNext else machine)
  | .setRegister register value => .done (machine.setRegister register value)
  | .addConstant register value =>
      .done (machine.setRegister register (machine.register register + value))
  | .combine operation first second => .done (machine.combine operation first second)
  | .setIndex target => .done { machine with index := target }
  | .jumpOffset target =>
      .done { machine with counter := target + (machine.register 0).toNat }
  | .randomByte register mask =>
      match machine.random.next? with
      | none => .failure .unsupported machine
      | some (byte, random) =>
          .done ({ machine with random := random }.setRegister register (byte &&& mask))
  | .draw column row height =>
      machine.withRange height fun machine => machine.drawAtIndex column row height
  | .readDelay register => machine.storeInteger register machine.delayTimer
  | .awaitKey register =>
      match machine.keypad.min? with
      | some key => machine.storeInteger register key
      | none => .done { machine with counter := machine.counter - 2 }
  | .setDelay register =>
      .done { machine with delayTimer := (machine.register register).toNat }
  | .setSound register =>
      .done { machine with soundTimer := (machine.register register).toNat }
  | .addToIndex register =>
      let sum := machine.index + (machine.register register).toNat
      .done ({ machine with index := sum % 65536 }.setFlag (65535 < sum))
  | .pointAtGlyph register =>
      .done { machine with index := Font.address ((machine.register register).toNat % 16) }
  | .storeDecimal register =>
      machine.withRange 3 fun machine =>
        machine.storeAtIndex (decimalDigits (machine.register register))
  | .storeRegisters last =>
      machine.withRange (last + 1) fun machine =>
        (machine.storeAtIndex (machine.registers.slice 0 (last + 1))).moveIndex (last + 1)
  | .loadRegisters last =>
      machine.withRange (last + 1) fun machine =>
        { machine with
          registers := machine.registers.overwrite 0
            (machine.memory.slice machine.index.toNat (last + 1)) }.moveIndex (last + 1)

end Machine

end Chip8
