import Chip8.Proofs.Reachability

/-!
# Programs as lists of words

A program can be written down as a list of words, each stored as two bytes
with the high byte first.  Loading it changes the bytes that it covers and no
other, and a fetch at the place of a word gives this word back, whatever
integer it was written down as: only the low sixteen bits count.
-/

namespace Chip8

namespace Word

def high (word : Word) : UInt8 := UInt8.ofNat (word.toNat / 256)

/-- The two bytes of a word, the high byte first. -/
def bytes (word : Word) : List UInt8 := [word.high, word.byte]

theorem ext_toNat
    {first second : Word} (same : first.toNat = second.toNat) :
    first = second := by
  cases first
  cases second
  simpa using same

private theorem ofBytes_high_byte (word : Word) :
    ofBytes word.high word.byte = word := by
  have bound := word.isLt
  apply ext_toNat
  simp only [ofBytes, high, byte, nn, UInt8.toNat_ofNat']
  omega

theorem toNat_ofInt (value : Int) :
    ((ofInt value).toNat : Int) = value % 65536 :=
  Int.toNat_of_nonneg (Int.emod_nonneg value (by decide))

/-- A word is the word of its own value. -/
theorem ofInt_toNat (word : Word) : ofInt word.toNat = word := by
  have bound := word.isLt
  apply ext_toNat
  simp only [ofInt]
  omega

/-- The digits of a word make up its value, its low byte and its address. -/
theorem digits (word : Word) :
    word.toNat =
        4096 * (word.group : Nat) + 256 * (word.x : Nat) +
          16 * (word.y : Nat) + (word.n : Nat) ∧
      word.nn = 16 * (word.y : Nat) + (word.n : Nat) ∧
      word.nnn = 256 * (word.x : Nat) + word.nn := by
  simp only [group, x, y, n, nn, nnn]
  omega

end Word

namespace Machine

/-- The program that consists of the low sixteen bits of some integers. -/
def programOfWords (values : List Int) : List UInt8 :=
  values.flatMap fun value => (Word.ofInt value).bytes

theorem length_programOfWords (values : List Int) :
    (programOfWords values).length = 2 * values.length := by
  induction values with
  | nil => rfl
  | cons value rest inductionHypothesis =>
      simp only [programOfWords, List.flatMap_cons, List.length_append,
        List.length_cons, Word.bytes, List.length_nil] at inductionHypothesis ⊢
      omega

/-- The word with a number begins at twice this number. -/
theorem getElem?_programOfWords
    {values : List Int} {number : Nat} {value : Int}
    (isValue : values[number]? = some value) :
    (programOfWords values)[2 * number]? = some (Word.ofInt value).high ∧
      (programOfWords values)[2 * number + 1]? =
        some (Word.ofInt value).byte := by
  induction values generalizing number with
  | nil => simp at isValue
  | cons first rest inductionHypothesis =>
      cases number with
      | zero =>
          simp only [List.getElem?_cons_zero, Option.some.injEq] at isValue
          subst isValue
          exact ⟨rfl, rfl⟩
      | succ number =>
          exact inductionHypothesis (by simpa using isValue)

/-! ## Fetching -/

private theorem fetch_eq_ok_iff
    {machine past : Machine} {word : Word} :
    machine.fetch = .ok (word, past) ↔
      machine.canFetch = true ∧ word = machine.wordAtCounter ∧
        past = machine.stepOver := by
  unfold fetch
  by_cases inside : machine.canFetch = true
  · simp [inside, eq_comm]
  · simp [inside]

/-- Where a program of words has been stored, a fetch finds its words. -/
theorem fetch_programOfWords
    {machine : Machine} {before : Bytes memorySize} {values : List Int}
    {number : Nat} {value : Int}
    (fits : values.length ≤ 1792)
    (isMemory : machine.memory =
      before.overwrite programStart (programOfWords values))
    (isValue : values[number]? = some value)
    (isCounter : machine.counter = 0x200 + 2 * number) :
    machine.fetch =
      .ok (Word.ofInt value,
        { machine with counter := 0x202 + 2 * number }) := by
  have inside : number < values.length :=
    (List.getElem?_eq_some_iff.mp isValue).1
  have length := length_programOfWords values
  have size : memorySize = 4096 := rfl
  have place : machine.counter.toNat = 0x200 + 2 * number := by omega
  obtain ⟨highByte, lowByte⟩ := getElem?_programOfWords isValue
  have isHigh :
      machine.memory.read machine.counter.toNat =
        (Word.ofInt value).high := by
    rw [isMemory, place, Bytes.read_overwrite, programStart,
      if_pos (by omega), Nat.add_sub_cancel_left,
      List.getD_eq_getElem?_getD, highByte, Option.getD_some]
  have isLow :
      machine.memory.read (machine.counter.toNat + 1) =
        (Word.ofInt value).byte := by
    rw [isMemory, place, Bytes.read_overwrite, programStart,
      if_pos (by omega), Nat.add_assoc, Nat.add_sub_cancel_left,
      List.getD_eq_getElem?_getD, lowByte, Option.getD_some]
  have isWord : Word.ofInt value = machine.wordAtCounter := by
    rw [wordAtCounter, isHigh, isLow, Word.ofBytes_high_byte]
  refine fetch_eq_ok_iff.mpr ⟨?_, isWord, ?_⟩
  · rw [canFetch_iff]
    omega
  · have advanced : machine.counter + 2 = 0x202 + 2 * number := by omega
    rw [stepOver, advanced]

/-! ## Loading -/

/-- A loaded program is what memory holds from its first byte on. -/
theorem slice_overwrite
    (before : Bytes memorySize) {program : List UInt8}
    (fits : programStart + program.length ≤ memorySize) :
    (before.overwrite programStart program).slice programStart
      program.length = program := by
  apply List.ext_getElem
  · simp
  · intro offset _ inside
    have covered :
        programStart ≤ programStart + offset ∧
          programStart + offset < programStart + program.length ∧
          programStart + offset < memorySize := by
      omega
    simp only [Bytes.slice, List.getElem_map, List.getElem_range,
      Bytes.read_overwrite]
    rw [if_pos covered, Nat.add_sub_cancel_left,
      List.getD_eq_getElem?_getD, List.getElem?_eq_getElem inside,
      Option.getD_some]

theorem load_of_tooLong
    {program : List UInt8} (tooLong : 3584 < program.length)
    (machine : Machine) :
    machine.load program = .error (.tooLong program.length) := by
  refine if_pos ?_
  simp only [memorySize, programStart]
  omega

/-- A program of words is stored where it belongs and nowhere else, and is
fetched word by word: each word has the digits of the integer that it was
written down as.  A program that does not fit is refused, and the machine stays
as it is. -/
theorem program_round_trip (machine : Machine) :
    (∀ values : List Int, values.length ≤ 1792 →
      ∃ loaded,
        machine.load (programOfWords values) = .ok loaded ∧
        loaded = { machine with memory := loaded.memory } ∧
        loaded.memory.slice 0x200 (2 * values.length) =
          programOfWords values ∧
        (∀ address,
          address < 0x200 ∨ 0x200 + 2 * values.length ≤ address →
          loaded.memory.read address = machine.memory.read address) ∧
        ∀ (number : Nat) (value : Int), values[number]? = some value →
          ∃ word : Word,
            ({ loaded with counter := 0x200 + 2 * number }).fetch =
              .ok (word, { loaded with counter := 0x202 + 2 * number }) ∧
            (word.toNat : Int) = value % 65536 ∧
            Word.ofInt word.toNat = Word.ofInt value ∧
            let decoded := Word.ofInt value
            (value % 65536 =
                4096 * (decoded.group : Nat) + 256 * (decoded.x : Nat) +
                  16 * (decoded.y : Nat) + (decoded.n : Nat)) ∧
              decoded.nn = 16 * (decoded.y : Nat) + (decoded.n : Nat) ∧
              decoded.nnn = 256 * (decoded.x : Nat) + decoded.nn ∧
              decoded.nn < 256 ∧ decoded.nnn < 4096) ∧
    ∀ program : List UInt8, 3584 < program.length →
      machine.load program = .error (.tooLong program.length) ∧
      ∀ next : Position,
        Step { machine := machine } (.load program) next ↔
          next = { machine := machine } := by
  constructor
  · intro values fits
    have length := length_programOfWords values
    have enough :
        programStart + (programOfWords values).length ≤ memorySize := by
      simp only [programStart, memorySize]
      omega
    refine ⟨_, load_eq_ok_iff.mpr ⟨enough, rfl⟩, rfl, ?_, ?_, ?_⟩
    · rw [← length]
      exact slice_overwrite machine.memory enough
    · intro address outside
      rw [Bytes.read_overwrite, programStart, if_neg (by omega)]
    · intro number value isValue
      refine ⟨Word.ofInt value,
        fetch_programOfWords fits rfl isValue rfl,
        Word.toNat_ofInt value, Word.ofInt_toNat _, ?_⟩
      obtain ⟨sum, lowByte, address⟩ := (Word.ofInt value).digits
      have low := Word.toNat_ofInt value
      refine ⟨?_, lowByte, address, ?_, ?_⟩
      · omega
      · exact Nat.mod_lt _ (by decide)
      · exact Nat.mod_lt _ (by decide)
  · intro program tooLong
    have refused := load_of_tooLong tooLong machine
    refine ⟨refused, fun next => ?_⟩
    constructor
    · intro step
      cases step with
      | loaded accepted =>
          rw [refused] at accepted
          cases accepted
      | rejected _ => rfl
    · rintro rfl
      exact .rejected refused

/-- A program that fills the memory, and one that is a byte longer. -/
theorem program_round_trip_full :
    let machine := initial .absent none
    (∃ loaded,
      machine.load (programOfWords (List.replicate 1792 (-2))) = .ok loaded ∧
        ∃ word : Word,
          ({ loaded with counter := 4094 }).fetch =
            .ok (word, { loaded with counter := 4096 }) ∧
          word.toNat = 0xFFFE) ∧
      machine.load (List.replicate 3585 0) = .error (.tooLong 3585) := by
  intro machine
  obtain ⟨short, long⟩ := program_round_trip machine
  have count : (List.replicate 1792 (-2 : Int)).length = 1792 :=
    List.length_replicate
  have longer : (List.replicate 3585 (0 : UInt8)).length = 3585 :=
    List.length_replicate
  obtain ⟨loaded, accepted, _, _, _, fetched⟩ :=
    short (List.replicate 1792 (-2)) (by omega)
  have isLast : (List.replicate 1792 (-2 : Int))[1791]? = some (-2) := by
    rw [List.getElem?_replicate, if_pos (by omega)]
  obtain ⟨word, atEnd, isValue, _⟩ := fetched 1791 (-2) isLast
  refine ⟨⟨loaded, accepted, word, atEnd, ?_⟩, ?_⟩
  · omega
  · have refused := (long (List.replicate 3585 0) (by omega)).1
    rwa [longer] at refused

end Machine

end Chip8
