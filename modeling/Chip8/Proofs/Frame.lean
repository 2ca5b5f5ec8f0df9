import Chip8.Proofs.Bytes
import Chip8.Proofs.Execution

/-!
# Which instruction changes what

For each part of a machine, the instructions that change it and the value that
they leave there.  A part that an instruction is not listed for stays as it
was.
-/

namespace Chip8.Instruction

/-- The number of bytes from the index on that an instruction writes. -/
def written : Instruction → Nat
  | storeDecimal _ => 3
  | storeRegisters last => last + 1
  | _ => 0

theorem written_le_reach (instruction : Instruction) :
    instruction.written ≤ instruction.reach := by
  cases instruction <;> simp [written, reach]

end Chip8.Instruction

namespace Chip8.Machine

variable (machine : Machine) (instruction : Instruction)

/-- Only the two storing instructions write to memory. -/
theorem memory_carryOut :
    (machine.carryOut instruction).memory =
      match instruction with
      | .storeDecimal register =>
          machine.memory.overwrite machine.index.toNat
            (decimalDigits (machine.register register))
      | .storeRegisters last =>
          machine.memory.overwrite machine.index.toNat
            (machine.registers.slice 0 (last + 1))
      | _ => machine.memory := by
  cases instruction <;> rfl

/-- Where each instruction leaves the counter. -/
theorem counter_carryOut :
    (machine.carryOut instruction).counter =
      match instruction with
      | .returnToCaller => machine.stack.headD machine.counter
      | .jump target => target
      | .call target => target
      | .skip condition wanted =>
          if machine.meets condition = wanted then machine.counter + 2
          else machine.counter
      | .jumpOffset target => target + (machine.register 0).toNat
      | .awaitKey _ =>
          if machine.keypad.min? = none then machine.counter - 2
          else machine.counter
      | _ => machine.counter := by
  cases instruction <;> rfl

theorem index_carryOut :
    (machine.carryOut instruction).index =
      match instruction with
      | .setIndex target => target
      | .addToIndex register =>
          (machine.index + (machine.register register).toNat) % 65536
      | .pointAtGlyph register =>
          Font.address ((machine.register register).toNat % 16)
      | .storeRegisters last => machine.index + (last + 1 : Nat)
      | .loadRegisters last => machine.index + (last + 1 : Nat)
      | _ => machine.index := by
  cases instruction <;> rfl

theorem stack_carryOut :
    (machine.carryOut instruction).stack =
      match instruction with
      | .returnToCaller => machine.stack.tail
      | .call _ => machine.counter % 65536 :: machine.stack
      | _ => machine.stack := by
  cases instruction <;> rfl

theorem stackLimit_carryOut :
    (machine.carryOut instruction).stackLimit = machine.stackLimit := by
  cases instruction <;> rfl

theorem delayTimer_carryOut :
    (machine.carryOut instruction).delayTimer =
      match instruction with
      | .setDelay register => ((machine.register register).toNat : Int)
      | _ => machine.delayTimer := by
  cases instruction <;> rfl

theorem soundTimer_carryOut :
    (machine.carryOut instruction).soundTimer =
      match instruction with
      | .setSound register => ((machine.register register).toNat : Int)
      | _ => machine.soundTimer := by
  cases instruction <;> rfl

theorem display_carryOut :
    (machine.carryOut instruction).display =
      match instruction with
      | .clearScreen => ∅
      | .draw column row height =>
          machine.display.draw
            ((machine.register column).toNat % screenWidth : Nat)
            ((machine.register row).toNat % screenHeight : Nat)
            (machine.memory.slice machine.index.toNat height)
      | _ => machine.display := by
  cases instruction <;> rfl

theorem random_carryOut :
    (machine.carryOut instruction).random =
      match instruction with
      | .randomByte _ _ =>
          (machine.random.next?.map Prod.snd).getD machine.random
      | _ => machine.random := by
  cases instruction <;> rfl

/-- Memory changes only where an instruction writes. -/
theorem read_memory_carryOut_of_unwritten
    {address : Nat}
    (outside : address < machine.index.toNat ∨
      machine.index.toNat + instruction.written ≤ address) :
    (machine.carryOut instruction).memory.read address =
      machine.memory.read address := by
  rw [memory_carryOut]
  cases instruction with
  | storeDecimal register =>
      simp only [Instruction.written] at outside
      simp only [Bytes.read_overwrite, decimalDigits, List.length_cons,
        List.length_nil]
      rw [if_neg (by omega)]
  | storeRegisters last =>
      simp only [Instruction.written] at outside
      simp only [Bytes.read_overwrite, Bytes.length_slice]
      rw [if_neg (by omega)]
  | _ => rfl

/-- Memory is written only where an instruction reaches. -/
theorem read_memory_carryOut
    {address : Nat}
    (outside : address < machine.index.toNat ∨
      machine.index.toNat + instruction.reach ≤ address) :
    (machine.carryOut instruction).memory.read address =
      machine.memory.read address := by
  have within := instruction.written_le_reach
  exact read_memory_carryOut_of_unwritten machine instruction (by omega)

end Chip8.Machine
