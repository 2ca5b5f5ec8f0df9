import Chip8.Arithmetic
import Chip8.Word

/-!
# Instructions

The meaning of an instruction word, grouped by shape: the six skips are one
constructor with a condition, and the nine operations on two registers are one
constructor with an operation.  A word without a meaning is ignored.
-/

namespace Chip8

abbrev Register := Fin 16

inductive Condition where
  /-- A register holds the given byte. -/
  | holds (register : Register) (value : UInt8)
  /-- Two registers hold the same byte. -/
  | agree (first second : Register)
  /-- The key whose code is in a register is down. -/
  | pressed (register : Register)
  deriving DecidableEq, Repr

/-- What an instruction word asks the machine to do. -/
inductive Instruction where
  | ignore
  | clearScreen
  | returnToCaller
  | jump (target : Nat)
  /-- Call the subroutine at an address. -/
  | call (target : Nat)
  /-- Skip the next instruction if the condition has the wanted truth value. -/
  | skip (condition : Condition) (wanted : Bool)
  /-- Put a byte into a register. -/
  | setRegister (register : Register) (value : UInt8)
  /-- Add a byte to a register, without a flag. -/
  | addConstant (register : Register) (value : UInt8)
  | combine (operation : Arithmetic) (first second : Register)
  /-- Put an address into the index. -/
  | setIndex (target : Nat)
  /-- Continue at an address plus register 0. -/
  | jumpOffset (target : Nat)
  /-- Put a masked random byte into a register. -/
  | randomByte (register : Register) (mask : UInt8)
  /-- Draw the sprite at the index. -/
  | draw (column row : Register) (height : Fin 16)
  | readDelay (register : Register)
  | awaitKey (register : Register)
  | setDelay (register : Register)
  | setSound (register : Register)
  /-- Add a register to the index. -/
  | addToIndex (register : Register)
  /-- Point at the glyph of a digit. -/
  | pointAtGlyph (register : Register)
  /-- Store the three decimal digits of a register. -/
  | storeDecimal (register : Register)
  /-- Store the registers up to the given one. -/
  | storeRegisters (last : Register)
  /-- Load the registers up to the given one. -/
  | loadRegisters (last : Register)
  deriving DecidableEq, Repr

namespace Instruction

def system (word : Word) : Instruction :=
  match word.toNat with
  | 0x00E0 => clearScreen
  | 0x00EE => returnToCaller
  | _ => ignore

def keyboard (word : Word) : Instruction :=
  match word.nn with
  | 0x9E => skip (.pressed word.x) true
  | 0xA1 => skip (.pressed word.x) false
  | _ => ignore

def miscellaneous (word : Word) : Instruction :=
  match word.nn with
  | 0x07 => readDelay word.x
  | 0x0A => awaitKey word.x
  | 0x15 => setDelay word.x
  | 0x18 => setSound word.x
  | 0x1E => addToIndex word.x
  | 0x29 => pointAtGlyph word.x
  | 0x33 => storeDecimal word.x
  | 0x55 => storeRegisters word.x
  | 0x65 => loadRegisters word.x
  | _ => ignore

/-- A comparison of two registers needs a zero in the last digit. -/
def compareRegisters (word : Word) (wanted : Bool) : Instruction :=
  if word.n = 0 then skip (.agree word.x word.y) wanted else ignore

def arithmetic (word : Word) : Instruction :=
  match Arithmetic.ofNat? word.n with
  | some operation => combine operation word.x word.y
  | none => ignore

def ofWord (word : Word) : Instruction :=
  match word.group with
  | 0x0 => system word
  | 0x1 => jump word.nnn
  | 0x2 => call word.nnn
  | 0x3 => skip (.holds word.x word.byte) true
  | 0x4 => skip (.holds word.x word.byte) false
  | 0x5 => compareRegisters word true
  | 0x6 => setRegister word.x word.byte
  | 0x7 => addConstant word.x word.byte
  | 0x8 => arithmetic word
  | 0x9 => compareRegisters word false
  | 0xA => setIndex word.nnn
  | 0xB => jumpOffset word.nnn
  | 0xC => randomByte word.x word.byte
  | 0xD => draw word.x word.y word.n
  | 0xE => keyboard word
  | _ => miscellaneous word

end Instruction

end Chip8
