import Chip8.Text.Numeral

/-!
# Faults

A fault is a mistake of the running program that the machine detects.  It has
a cause, and once the instruction is known also the address and the word of
the instruction.
-/

namespace Chip8

/-- The kinds of fault that reports tell apart. -/
inductive FaultKind where
  | general
  | stackUnderflow
  | stackOverflow
  | memoryAccess
  deriving DecidableEq, Repr

namespace FaultKind

def name : FaultKind → String
  | general => "MachineFault"
  | stackUnderflow => "StackUnderflowError"
  | stackOverflow => "StackOverflowError"
  | memoryAccess => "MemoryAccessError"

end FaultKind

namespace Fault

inductive Cause where
  /-- The next instruction does not lie in memory. -/
  | fetchOutside
  /-- A range of `length` bytes from `start` on does not lie in memory. -/
  | accessOutside (start length : Int)
  /-- A call finds the stack at its limit. -/
  | stackFull (limit : Int)
  /-- A return finds the stack empty. -/
  | stackEmpty
  /-- A fault that is reported with a text of its own. -/
  | reported (kind : FaultKind) (message : String)
  deriving DecidableEq, Repr

namespace Cause

def kind : Cause → FaultKind
  | fetchOutside => .memoryAccess
  | accessOutside _ _ => .memoryAccess
  | stackFull _ => .stackOverflow
  | stackEmpty => .stackUnderflow
  | reported kind _ => kind

def message : Cause → String
  | fetchOutside => "instruction fetch outside memory"
  | accessOutside start length =>
      "access to 0x" ++ Numeral.hex 4 start ++ "-0x" ++
        Numeral.hex 4 (start + length - 1) ++ " outside memory"
  | stackFull limit =>
      Numeral.worded limit fun digits => "call stack full (" ++ digits ++ " entries)"
  | stackEmpty => "return with empty call stack"
  | reported _ message => message

end Cause

end Fault

/-- A fault with the place where it happened, as far as it is known. -/
structure Fault where
  cause : Fault.Cause
  address : Option Int := none
  instruction : Option Int := none
  deriving DecidableEq, Repr

namespace Fault

/-- The kind of a fault is that of its cause. -/
def kind (fault : Fault) : FaultKind := fault.cause.kind

/-- The place of a fault, in brackets behind a blank.  A word without an
address is not written. -/
def placeText (fault : Fault) : String :=
  match fault.instruction, fault.address with
  | some instruction, some address =>
      " (instruction 0x" ++ Numeral.hex 4 instruction ++
        " at 0x" ++ Numeral.hex 3 address ++ ")"
  | none, some address => " (at 0x" ++ Numeral.hex 3 address ++ ")"
  | _, none => ""

/-- The full text of a fault. -/
def text (fault : Fault) : String := fault.cause.message ++ fault.placeText

end Fault

end Chip8
