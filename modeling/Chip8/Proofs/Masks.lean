import Chip8.Word
import Mathlib.Algebra.Group.Nat.Defs

/-!
# Masks and digits

A mask of whole digits compares these digits: a word agrees with a value under
the mask exactly if the digits are those of the value.  The words without an
instruction are listed by their digits.
-/

namespace Chip8.Word

/-- A mask of the first digit and some of the last bits splits a word at the
first digit. -/
theorem and_digits_mask
    (word : Word) (bits : Nat) (few : bits ≤ 12) :
    word.toNat &&& (0xF000 + (2 ^ bits - 1)) =
      4096 * word.group.val + word.toNat % 2 ^ bits := by
  have small : 2 ^ bits ≤ 2 ^ 12 := Nat.pow_le_pow_right (by omega) few
  have positive : 0 < 2 ^ bits := Nat.two_pow_pos bits
  have high : (word.toNat &&& (0xF000 + (2 ^ bits - 1))) / 2 ^ 12 =
      word.group.val := by
    have maskHigh : (0xF000 + (2 ^ bits - 1)) / 2 ^ 12 = 2 ^ 4 - 1 := by
      omega
    have inRange := word.isLt
    rw [Nat.and_div_two_pow, maskHigh, Nat.and_two_pow_sub_one_eq_mod]
    change word.toNat / 4096 % 16 = word.toNat / 4096
    omega
  have low : (word.toNat &&& (0xF000 + (2 ^ bits - 1))) % 2 ^ 12 =
      word.toNat % 2 ^ bits := by
    have maskLow : (0xF000 + (2 ^ bits - 1)) % 2 ^ 12 = 2 ^ bits - 1 := by
      omega
    rw [Nat.and_mod_two_pow, maskLow, Nat.and_two_pow_sub_one_eq_mod,
      Nat.mod_mod_of_dvd _ (Nat.pow_dvd_pow 2 few)]
  have parts :=
    Nat.div_add_mod (word.toNat &&& (0xF000 + (2 ^ bits - 1))) (2 ^ 12)
  rw [high, low] at parts
  exact parts.symm

theorem nn_lt (word : Word) : word.nn < 256 :=
  Nat.mod_lt _ (by omega)

@[simp]
theorem toNat_byte (word : Word) : word.byte.toNat = word.nn := by
  rw [byte, UInt8.toNat_ofNat']
  exact Nat.mod_eq_of_lt word.nn_lt

section Digits

variable (word : Word) {value : Nat}

theorem and_full_eq_iff :
    word.toNat &&& 0xFFFF = value ↔
      word.group.val = value / 4096 ∧ word.toNat = value := by
  have groupValue : word.group.val = word.toNat / 4096 := rfl
  have masked := Nat.and_two_pow_sub_one_eq_mod word.toNat 16
  rw [Nat.mod_eq_of_lt word.isLt] at masked
  rw [masked]
  omega

theorem and_group_eq_iff (aligned : value % 4096 = 0) :
    word.toNat &&& 0xF000 = value ↔ word.group.val = value / 4096 := by
  have masked :
      word.toNat &&& 0xF000 = 4096 * word.group.val + word.toNat % 1 :=
    and_digits_mask word 0 (by omega)
  rw [masked]
  omega

theorem and_group_digit_eq_iff (aligned : value / 16 % 256 = 0) :
    word.toNat &&& 0xF00F = value ↔
      word.group.val = value / 4096 ∧ word.n.val = value % 16 := by
  have masked : word.toNat &&& 0xF00F = 4096 * word.group.val + word.n.val :=
    and_digits_mask word 4 (by omega)
  rw [masked]
  omega

theorem and_group_byte_eq_iff (aligned : value / 256 % 16 = 0) :
    word.toNat &&& 0xF0FF = value ↔
      word.group.val = value / 4096 ∧ word.nn = value % 256 := by
  have masked : word.toNat &&& 0xF0FF = 4096 * word.group.val + word.nn :=
    and_digits_mask word 8 (by omega)
  have byteBound := word.nn_lt
  rw [masked]
  omega

end Digits

def Unassigned (word : Word) : Prop :=
  (word.group.val = 0x0 ∧ word.toNat ∉ [0x00E0, 0x00EE]) ∨
    (word.group.val = 0x5 ∧ word.n.val ≠ 0x0) ∨
    (word.group.val = 0x8 ∧
      word.n.val ∉ [0x0, 0x1, 0x2, 0x3, 0x4, 0x5, 0x6, 0x7, 0xE]) ∨
    (word.group.val = 0x9 ∧ word.n.val ≠ 0x0) ∨
    (word.group.val = 0xE ∧ word.nn ∉ [0x9E, 0xA1]) ∨
    (word.group.val = 0xF ∧
      word.nn ∉ [0x0A, 0x07, 0x15, 0x18, 0x1E, 0x29, 0x33, 0x55, 0x65])

end Chip8.Word
