import Chip8.Proofs.Masks
import Chip8.Proofs.OpcodeAgreement
import Chip8.Proofs.WordMeanings
import Mathlib.Tactic.IntervalCases

/-!
# The machine follows the opcode table

Every word is executed as the opcode table says: a word of a row has the
effect of this row and of no other, and a word of no row is ignored.
-/

namespace Chip8.Opcode

/-! ## Words outside the table -/

private theorem unmatched_iff (word : Word) :
    (∀ row ∈ table, ¬ row.Matches word.toNat) ↔ word.Unassigned := by
  have groupBound := word.group.isLt
  simp only [table, controlRows, skipRows, registerRows, arithmeticRows,
    memoryRows, skip, arithmetic, List.cons_append, List.nil_append,
    List.forall_mem_cons, Matches, Word.and_full_eq_iff,
    Word.and_group_eq_iff, Word.and_group_digit_eq_iff,
    Word.and_group_byte_eq_iff, Nat.reduceMod, Nat.reduceDiv, Nat.reduceAdd]
  unfold Word.Unassigned
  -- With the first digit fixed, both sides name the same digits.
  generalize word.group.val = group at *
  interval_cases group <;> simp

/-! ## All words -/

theorem executeWord_eq_execute
    (machine : Machine) (word : Word) (keys : Option KeySet) :
    machine.executeWord word keys =
      Machine.execute { machine with keypad := keys.getD machine.keypad }
        (.ofWord word) := by
  cases keys <;> rfl

/-- An integer is executed by its low sixteen bits.  At most one row has them;
if the word is executed to the end, the next machine is the one that this row
says, with the given keys down.  The words outside the table are done and
change nothing but the keypad. -/
theorem executeWord_follows_table
    (machine : Machine) (value : Int) (keys : Option KeySet) :
    (table.filter fun row => row.Matches (value % 65536).toNat).length ≤ 1 ∧
      (∀ row ∈ table, row.Matches (value % 65536).toNat →
        ∀ next, machine.executeWord (.ofInt value) keys = .done next →
          next = row.effect (.ofInt value)
            { machine with keypad := keys.getD machine.keypad }) ∧
      ((∀ row ∈ table, ¬ row.Matches (value % 65536).toNat) →
        machine.executeWord (.ofInt value) keys =
          .done { machine with keypad := keys.getD machine.keypad }) ∧
      ((∀ row ∈ table, ¬ row.Matches (value % 65536).toNat) ↔
        (Word.ofInt value).Unassigned) := by
  have outside := unmatched_iff (.ofInt value)
  refine ⟨length_filter_matches_le table_apart _, ?_, ?_, outside⟩
  · intro row member hit next isDone
    rw [executeWord_eq_execute] at isDone
    exact table_agrees row member (.ofInt value) _ next hit isDone
  · intro unmatched
    rw [executeWord_eq_execute, Word.ofWord_of_unassigned (outside.mp unmatched)]
    rfl

/-- A machine with 200 and 100 in two registers. -/
def adding : Machine :=
  { Machine.initial .absent none with
    registers := ((Bytes.zeros 16).set 1 200).set 2 100 }

/-- A negative word whose low bits add two registers, with a carry. -/
theorem executeWord_follows_table_adding :
    ∃ row ∈ table, row.Matches (-0x7EDC % 65536 : Int).toNat ∧
      ∃ next, adding.executeWord (.ofInt (-0x7EDC)) none = .done next ∧
        next = row.effect (.ofInt (-0x7EDC)) adding ∧
        next.register 1 = 44 ∧ next.register 0xF = 1 := by
  have member : arithmetic 0x4 (fun first second => first + second)
      (some fun first second => if 255 < first + second then 1 else 0) ∈
        table := by
    simp [table, arithmeticRows]
  have hit : (arithmetic 0x4 (fun first second => first + second)
      (some fun first second =>
        if 255 < first + second then 1 else 0)).Matches
          (-0x7EDC % 65536 : Int).toNat := by
    decide
  refine ⟨_, member, hit, _, rfl, ?_, by decide, by decide⟩
  exact (executeWord_follows_table adding (-0x7EDC) none).2.1 _ member hit _ rfl

end Chip8.Opcode
