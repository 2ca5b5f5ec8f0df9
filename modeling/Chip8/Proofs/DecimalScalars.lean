import Mathlib.Data.List.Basic
import Mathlib.Data.List.TakeWhile
import Chip8.Yaml.Scalar

/-!
# Decimal integers as plain scalars

The decimal text of an integer has no zero in front, no underscore, no colon and
no point, so none of the other spellings of a scalar captures it.  It is read as
that integer, unless it has too many digits.
-/

namespace Chip8

theorem ne_of_holds
    {α : Type} {holds : α → Bool} {one other : α}
    (isOne : holds one = true)
    (notOther : holds other = false) :
    one ≠ other := by
  intro same
  rw [same, notOther] at isOne
  contradiction

namespace Numeral

theorem isDigit_of_mem_decimal
    {value : Nat} {char : Char}
    (belongs : char ∈ decimal value) :
    char.isDigit = true :=
  Nat.isDigit_of_mem_toDigits (by decide) (by decide) belongs

theorem decimal_ne_nil
    (value : Nat) :
    decimal value ≠ [] :=
  Nat.toDigits_ne_nil

private theorem head?_decimal_ne_zero
    {value : Nat}
    (positive : 0 < value) :
    (decimal value).head? ≠ some '0' := by
  induction value using Nat.strong_induction_on with
  | _ value inductionHypothesis =>
      by_cases single : value < 10
      · rw [decimal, Nat.toDigits_of_lt_base single, List.head?_cons, ne_eq,
          Option.some.injEq, Nat.digitChar_eq_zero]
        omega
      · have split : decimal value = decimal (value / 10) ++ [(value % 10).digitChar] :=
          Nat.toDigits_of_base_le (by decide) (by omega)
        have sameHead : (decimal value).head? = (decimal (value / 10)).head? := by
          rw [split, List.head?_append_of_ne_nil _ (decimal_ne_nil _)]
        rw [sameHead]
        exact inductionHypothesis (value / 10) (by omega) (by omega)

end Numeral

namespace Yaml.Scalar

/-! ## Characters of a number -/

private theorem toNat_of_isDigit
    {char : Char}
    (isDigit : char.isDigit = true) :
    48 ≤ char.toNat ∧ char.toNat ≤ 57 := by
  simpa [Char.isDigit, Char.le_def, UInt32.le_iff_toNat_le] using isDigit

theorem isDigitBelow_ten_of_isDigit
    {char : Char}
    (isDigit : char.isDigit = true) :
    isDigitBelow 10 char = true := by
  have bounds := toNat_of_isDigit isDigit
  have small : char.toNat - 48 < 10 := by omega
  simp [isDigitBelow, isDigit, small]

/-- Whether a character can begin the text of an integer. -/
def beginsInteger (char : Char) : Bool := char.isDigit || char = '-'

/-- None of the words is a text that begins like an integer. -/
theorem any_words_eq_false
    {words : List String} {first : Char}
    (apart : (words.all fun word => word.toList.head?.all (!beginsInteger ·)) = true)
    (begins : beginsInteger first = true)
    (rest : List Char) :
    (words.any fun word => word.toList == first :: rest) = false := by
  rw [List.any_eq_false]
  intro word listed same
  have apartWord := List.all_eq_true.mp apart word listed
  rw [beq_iff_eq.mp same] at apartWord
  simp [begins] at apartWord

/-- No word for null or for a truth value begins like an integer. -/
theorem ofPlain_of_beginsInteger
    {first : Char}
    (begins : beginsInteger first = true)
    (rest : List Char) :
    ofPlain (first :: rest) =
      ((real? (first :: rest)).orElse fun _ => int? (first :: rest)).getD
        (.plain (.text (.ofList (first :: rest)))) := by
  have notNull : isNull (first :: rest) = false :=
    any_words_eq_false (by decide) begins rest
  have notDefault : first ≠ '=' := ne_of_holds begins (by decide)
  have notMerge : first ≠ '<' := ne_of_holds begins (by decide)
  have notBool : bool? (first :: rest) = none := by
    rw [bool?, any_words_eq_false (by decide) begins rest,
      any_words_eq_false (by decide) begins rest]
    rfl
  simp [ofPlain, notNull, notDefault, notMerge, notBool]

/-! ## Digits and a sign -/

/-- Digits that are not empty, and a zero in front of them only if it is the only
one. -/
structure IsDecimal (digits : List Char) : Prop where
  nonempty : digits ≠ []
  isDigit : ∀ char ∈ digits, char.isDigit = true
  noZero : digits ≠ ['0'] → digits.head? ≠ some '0'

private theorem isDecimal_decimal
    (value : Nat) :
    IsDecimal (Numeral.decimal value) where
  nonempty := Numeral.decimal_ne_nil value
  isDigit := fun _ belongs => Numeral.isDigit_of_mem_decimal belongs
  noZero := by
    intro notZero
    apply Numeral.head?_decimal_ne_zero
    apply Nat.pos_of_ne_zero
    rintro rfl
    exact notZero (Nat.toDigits_zero 10)

def signOf (negative : Bool) : List Char := if negative then ['-'] else []

section

variable {digits : List Char}

theorem IsDecimal.exists_cons
    (isDecimal : IsDecimal digits) :
    ∃ first rest, digits = first :: rest ∧ first.isDigit = true := by
  obtain ⟨first, rest, rfl⟩ := List.exists_cons_of_ne_nil isDecimal.nonempty
  exact ⟨first, rest, rfl, isDecimal.isDigit first List.mem_cons_self⟩

theorem IsDecimal.splitSign
    (isDecimal : IsDecimal digits)
    (negative : Bool) :
    splitSign (signOf negative ++ digits) = (negative, digits) := by
  cases negative with
  | true => rfl
  | false =>
      obtain ⟨first, rest, rfl, isDigit⟩ := isDecimal.exists_cons
      have notMinus : first ≠ '-' := ne_of_holds isDigit (by decide)
      have notPlus : first ≠ '+' := ne_of_holds isDigit (by decide)
      simp [signOf, Scalar.splitSign, notMinus, notPlus]

private theorem splitColons_of_isDigit
    (isDigit : ∀ char ∈ digits, char.isDigit = true) :
    splitColons digits = [digits] := by
  induction digits with
  | nil => rfl
  | cons first rest inductionHypothesis =>
      obtain ⟨firstDigit, others⟩ := List.forall_mem_cons.mp isDigit
      have notColon : first ≠ ':' := ne_of_holds firstDigit (by decide)
      simp [splitColons, inductionHypothesis others, notColon]

private theorem dropUnderscores_of_isDigit
    (isDigit : ∀ char ∈ digits, char.isDigit = true) :
    dropUnderscores digits = digits := by
  apply List.filter_eq_self.mpr
  intro char belongs
  simpa using ne_of_holds (isDigit char belongs) (by decide)

/-- Decimal digits without a zero in front are read as their value, unless there
are too many. -/
theorem IsDecimal.decimalInteger?
    (isDecimal : IsDecimal digits)
    (negative : Bool) :
    decimalInteger? negative digits =
      some (limited digits (withSign negative (digitsValue 10 digits))) := by
  have run : (digits = ['0'] || isPositiveRun digits) = true := by
    by_cases zero : digits = ['0']
    · simp [zero]
    · obtain ⟨first, rest, rfl, firstDigit⟩ := isDecimal.exists_cons
      have others : ∀ char ∈ rest, isDigitBelow 10 char = true := by
        intro char belongs
        exact isDigitBelow_ten_of_isDigit
          (isDecimal.isDigit char (List.mem_cons_of_mem _ belongs))
      have noZero : first ≠ '0' := by simpa using isDecimal.noZero zero
      simp [isPositiveRun, isDigitRun, firstDigit, noZero, List.all_eq_true.mpr others]
  rw [Scalar.decimalInteger?, splitColons_of_isDigit isDecimal.isDigit]
  simp only [run, if_true, dropUnderscores_of_isDigit isDecimal.isDigit]

/-- No other spelling of integers takes decimal digits away from this one. -/
theorem IsDecimal.int?
    (isDecimal : IsDecimal digits)
    (negative : Bool) :
    int? (signOf negative ++ digits) =
      some (limited digits (withSign negative (digitsValue 10 digits))) := by
  have decimal := isDecimal.decimalInteger? negative
  rw [Scalar.int?, isDecimal.splitSign]
  by_cases zero : digits = ['0']
  · subst zero
    exact decimal
  · obtain ⟨first, rest, rfl, _⟩ := isDecimal.exists_cons
    have noZero : first ≠ '0' := by simpa using isDecimal.noZero zero
    simp [noZero, decimal]

/-- Digits alone have neither a point nor an exponent. -/
theorem IsDecimal.real?
    (isDecimal : IsDecimal digits)
    (negative : Bool) :
    real? (signOf negative ++ digits) = none := by
  have below : ∀ char ∈ digits, isDigitBelow 10 char = true :=
    fun char belongs => isDigitBelow_ten_of_isDigit (isDecimal.isDigit char belongs)
  have nothingAfter := List.dropWhile_eq_nil_iff.mpr below
  obtain ⟨first, rest, isDigits, firstDigit⟩ := isDecimal.exists_cons
  have notInfinite :
      ([".inf", ".Inf", ".INF"].any fun word => word.toList == digits) = false := by
    rw [isDigits]
    exact any_words_eq_false (by decide) (by simp [beginsInteger, firstDigit]) rest
  have notNan :
      ([".nan", ".NaN", ".NAN"].any fun word =>
        word.toList == signOf negative ++ digits) = false := by
    cases negative with
    | true => exact any_words_eq_false (by decide) (by decide) digits
    | false =>
        rw [isDigits]
        exact any_words_eq_false (by decide) (by simp [beginsInteger, firstDigit]) rest
  simp [Scalar.real?, isDecimal.splitSign, notInfinite, notNan, nothingAfter, isExponent]

end

/-! ## The text of an integer -/

private theorem digitsValue_decimal
    (value : Nat) :
    digitsValue 10 (Numeral.decimal value) = value := by
  have step :
      digitsValue 10 (Numeral.decimal value) =
        Nat.ofDigitChars 10 (Numeral.decimal value) 0 := by
    rw [digitsValue, Nat.ofDigitChars_eq_foldl]
    apply List.foldl_ext
    intro sum digit belongs
    have isDigit := Numeral.isDigit_of_mem_decimal belongs
    rw [digitValue, if_pos isDigit, Nat.mul_comm]
  rw [step, Numeral.decimal, Nat.ofDigitChars_ten_toDigits]

/-- The decimal text of an integer is a plain scalar that stands for it, unless it
has too many digits. -/
theorem ofPlain_integer
    (value : Int) :
    ofPlain (Numeral.text value).toList =
      limited (Numeral.decimal value.natAbs) value := by
  have isDecimal := isDecimal_decimal value.natAbs
  have isText :
      (Numeral.text value).toList =
        signOf (value < 0) ++ Numeral.decimal value.natAbs := by
    simp [Numeral.text, Numeral.sign, signOf]
  have signed :
      withSign (value < 0) (digitsValue 10 (Numeral.decimal value.natAbs)) = value := by
    rw [digitsValue_decimal, withSign]
    by_cases negative : value < 0
    · rw [if_pos (by simpa using negative)]
      omega
    · rw [if_neg (by simpa using negative)]
      omega
  have begun : ∃ first rest,
      (Numeral.text value).toList = first :: rest ∧ beginsInteger first = true := by
    obtain ⟨first, rest, isDigits, firstDigit⟩ := isDecimal.exists_cons
    by_cases negative : value < 0
    · exact ⟨'-', first :: rest, by simp [isText, signOf, negative, isDigits], by decide⟩
    · exact ⟨first, rest, by simp [isText, signOf, negative, isDigits],
        by simp [beginsInteger, firstDigit]⟩
  obtain ⟨first, rest, isCons, begins⟩ := begun
  rw [isCons, ofPlain_of_beginsInteger begins, ← isCons, isText, isDecimal.real?,
    isDecimal.int?, signed]
  rfl

end Yaml.Scalar

end Chip8
