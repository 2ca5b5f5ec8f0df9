import Chip8.Text.Numeral

/-!
# Failures

A failure is a mistake outside the running program: a timer or a key code that
is no byte, a device that does not do what it is asked for.  Unlike a fault it
ends whatever is going on.
-/

namespace Chip8

/-- What can fail around a machine. -/
inductive Failure where
  /-- A value that should be stored in a register is no byte. -/
  | notAByte (value : Int)
  /-- A device or a source of random bytes lacks the operation asked for. -/
  | unsupported
  /-- A device reports a failure in its own words. -/
  | device (report : String)
  /-- A window is drawn to before it is opened. -/
  | windowClosed
  /-- An integer is too large for a floating-point number. -/
  | numberTooLarge (value : Int)
  /-- An integer has too many digits to be written. -/
  | unwritable
  /-- A time is too long to sleep. -/
  | sleepTooLong
  deriving DecidableEq, Repr

namespace Failure

def message : Failure → String
  | notAByte value => Numeral.worded value fun digits => digits ++ " is not a byte"
  | unsupported => ""
  | device report => report
  | windowClosed => "the window is not open"
  | numberTooLarge value =>
      Numeral.worded value fun digits => "the number " ++ digits ++ " is too large"
  | unwritable => Numeral.unwritableText
  | sleepTooLong => "timestamp too large to convert to C _PyTime_t"

end Failure

end Chip8
