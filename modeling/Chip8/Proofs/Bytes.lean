import Chip8.Bytes

/-!
# Reading and writing blocks of bytes

A block is determined by its readings.  Writing a list of bytes changes the
readings of the addresses that the list covers and no other, and a range that
lies in the block is read as the list of its bytes.
-/

namespace Chip8.Bytes

variable {size : Nat}

theorem getElem?_eq_read
    (bytes : Bytes size) {address : Nat} (inside : address < size) :
    bytes[address]? = some (bytes.read address) := by
  simp [read, Vector.getD, inside]

theorem read_eq_getElem
    (bytes : Bytes size) {address : Nat} (inside : address < size) :
    bytes.read address = bytes[address] := by
  simp [read, Vector.getD, inside]

private theorem read_setIfInBounds
    (bytes : Bytes size) (place address : Nat) (byte : UInt8) :
    Bytes.read (bytes.setIfInBounds place byte) address =
      if place = address ∧ address < size then byte
      else bytes.read address := by
  by_cases inside : address < size
  · rw [read_eq_getElem _ inside, read_eq_getElem _ inside,
      Vector.getElem_setIfInBounds]
    simp [inside]
  · simp [read, Vector.getD, inside]

/-- A written address reads as the byte that covers it, every other address as
before. -/
theorem read_overwrite
    (bytes : Bytes size) (start : Nat) (written : List UInt8) (address : Nat) :
    (bytes.overwrite start written).read address =
      if start ≤ address ∧ address < start + written.length ∧ address < size
      then written.getD (address - start) 0
      else bytes.read address := by
  induction written generalizing bytes start with
  | nil =>
      have uncovered :
          ¬ (start ≤ address ∧
            address < start + ([] : List UInt8).length ∧ address < size) := by
        simp only [List.length_nil]
        omega
      rw [if_neg uncovered]
      rfl
  | cons byte rest inductionHypothesis =>
      rw [overwrite, inductionHypothesis, read_setIfInBounds]
      simp only [List.length_cons]
      by_cases first : start = address
      · subst first
        rw [if_neg (by omega)]
        by_cases inside : start < size <;> simp [inside]
      · by_cases covered :
            start + 1 ≤ address ∧
              address < start + 1 + rest.length ∧ address < size
        · obtain ⟨later, before, inside⟩ := covered
          have place : address - start = (address - (start + 1)) + 1 := by
            omega
          rw [if_pos ⟨later, before, inside⟩, if_pos (by omega), place,
            List.getD_cons_succ]
        · rw [if_neg covered, if_neg (by simp [first]), if_neg (by omega)]

theorem ext_read
    {first second : Bytes size}
    (agree : ∀ address, address < size →
      first.read address = second.read address) :
    first = second := by
  apply Vector.ext
  intro address inside
  rw [← read_eq_getElem first inside, ← read_eq_getElem second inside]
  exact agree address inside

@[simp]
theorem length_slice
    (bytes : Bytes size) (start count : Nat) :
    (bytes.slice start count).length = count := by
  simp [slice]

@[simp]
theorem getD_slice
    (bytes : Bytes size) (start : Nat) {count offset : Nat}
    (below : offset < count) :
    (bytes.slice start count).getD offset 0 = bytes.read (start + offset) := by
  simp [slice, below]

theorem read_ofFn
    (byte : Fin size → UInt8) {address : Nat} (inside : address < size) :
    Bytes.read (Vector.ofFn byte) address = byte ⟨address, inside⟩ := by
  rw [read_eq_getElem _ inside, Vector.getElem_ofFn]

/-- A range inside the block is read as a part of the list of all bytes. -/
theorem slice_eq_take_drop
    (bytes : Bytes size) {start count : Nat}
    (inside : start + count ≤ size) :
    bytes.slice start count = (bytes.toList.drop start).take count := by
  apply List.ext_getElem
  · simp
    omega
  · intro offset belowSlice _
    have offsetBound : offset < count := by simpa using belowSlice
    have addressBound : start + offset < size := by omega
    simp [slice, read_eq_getElem bytes addressBound]

end Chip8.Bytes
