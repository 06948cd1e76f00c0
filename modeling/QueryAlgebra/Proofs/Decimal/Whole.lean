/-
**Whole numerals.**

A numeral without a point denotes a whole number. Such numerals are what `isIntegerNumeral` accepts
(`isIntegerNumeral_iff`), and the number is zero when all of its digits are. As a decimal it is read
exactly when it is less than two to the power of 96, and then as zero only if it is zero
(`ofText?_whole`).
-/
import QueryAlgebra.Proofs.Decimal.Exponent
import QueryAlgebra.Term.Literal

namespace QueryAlgebra

open Text

namespace DecimalNumeral

variable {numeral : DecimalNumeral}

/-- Whether a numeral has no point. -/
def IsWhole (numeral : DecimalNumeral) : Prop := numeral.fraction = none

theorem IsWhole.decimals_eq (whole : numeral.IsWhole) : numeral.decimals = [] :=
  congrArg (·.getD []) whole

theorem IsWhole.digits_eq (whole : numeral.IsWhole) : numeral.digits = numeral.whole := by
  rw [digits, whole.decimals_eq, List.append_nil]

theorem IsWhole.whole_ne_nil (whole : numeral.IsWhole) : numeral.whole ≠ [] := by
  have present := numeral.present
  rwa [← decimals, whole.decimals_eq, List.append_nil] at present

theorem IsWhole.text_eq (whole : numeral.IsWhole) :
    numeral.text = numeral.sign.text ++ numeral.whole := by
  rw [text, unsigned, show numeral.fraction = none from whole, List.append_nil]

theorem IsWhole.abs_value (whole : numeral.IsWhole) : |numeral.value| = numeral.number := by
  have nothing : partOf [] = 0 := by simp [partOf, valueOf, valueFrom]
  rw [Decimal.abs_numeralValue, whole.decimals_eq, nothing, add_zero, number, whole.digits_eq]

theorem IsWhole.places_eq (whole : numeral.IsWhole) : numeral.places = 0 := by
  rw [places, whole.decimals_eq, List.length_nil]

theorem IsWhole.fits (whole : numeral.IsWhole) (bounded : numeral.number < twoTo 96) :
    numeral.Fits :=
  ⟨bounded, whole.places_eq.trans_le (Nat.zero_le 28)⟩

theorem value_eq_zero_iff : numeral.value = 0 ↔ numeral.number = 0 := by
  have factor : numeral.sign.factor ≠ 0 := by
    rw [← abs_pos, Sign.abs_factor]
    exact one_pos
  simp [value, factor]

/-- A numeral without digits other than zero denotes zero. -/
theorem IsWhole.any_iff (whole : numeral.IsWhole) :
    numeral.whole.any (· != '0') = true ↔ numeral.value ≠ 0 := by
  rw [ne_eq, value_eq_zero_iff, number, whole.digits_eq,
    valueOf_eq_zero_iff numeral.whole_areDigits, List.any_eq_true]
  push Not
  simp only [bne_iff_ne]

/-- The numeral that a number is written with. -/
def ofNat (number : Nat) : DecimalNumeral where
  sign := .implicit
  whole := digitsOf number
  fraction := none
  areDigits c member := isDigit_of_mem_digitsOf (by simpa using member)
  present := by simpa using digitsOf_ne_nil number

theorem isWhole_ofNat (number : Nat) : (ofNat number).IsWhole := rfl

theorem text_ofNat (number : Nat) : (ofNat number).text = digitsOf number :=
  (isWhole_ofNat number).text_eq

theorem number_ofNat (number : Nat) : (ofNat number).number = number := by
  rw [DecimalNumeral.number, (isWhole_ofNat number).digits_eq]
  exact valueOf_digitsOf number

end DecimalNumeral

/-! ### Reading -/

namespace Decimal

variable {numeral : DecimalNumeral} {decimal : Decimal}

theorem limit_le_iff (number : Nat) : limit ≤ number ↔ twoTo 96 ≤ number := by
  constructor
  · intro above
    by_contra below
    rw [limit] at above
    have inRat : (number : Rat) + 1 ≤ twoTo 96 := by exact_mod_cast Nat.lt_of_not_le below
    linarith
  · intro above
    exact limit_le (by exact_mod_cast above)

theorem lt_halfUnit_iff (number : Nat) : (number : Rat) < halfUnit ↔ number = 0 := by
  have positive : 0 < halfUnit := by
    rw [halfUnit]
    positivity
  constructor
  · intro near
    by_contra nonzero
    have one : (1 : Rat) ≤ number := by exact_mod_cast Nat.one_le_iff_ne_zero.mpr nonzero
    have small : halfUnit < 1 := by
      rw [halfUnit]
      norm_num
    linarith
  · rintro rfl
    exact_mod_cast positive

/-- **A whole numeral is read within 96 bits**, and as zero only if it denotes zero. -/
theorem ofText?_whole (whole : numeral.IsWhole) :
    (ofText? numeral.text = none ↔ twoTo 96 ≤ numeral.number) ∧
      ∀ decimal, ofText? numeral.text = some decimal →
        (decimal.isZero = true ↔ numeral.value = 0) := by
  have reading := isReading_ofText? (.plain (isSpelled_text numeral))
  rw [whole.abs_value] at reading
  refine ⟨reading.eq_none_iff.trans (limit_le_iff _), fun decimal read => ?_⟩
  rw [reading.isZero_iff decimal read, lt_halfUnit_iff, DecimalNumeral.value_eq_zero_iff]

end Decimal

/-! ### Literals -/

/-- The integer datatypes have the value space of whole numbers. -/
theorem Xsd.valueSpace_of_integer : ∀ datatype ∈ integerTypes, valueSpace datatype = .integer := by
  decide

namespace Literal

variable {text : List Char} {numeral : DecimalNumeral}

theorem exists_sign (text : List Char) : ∃ sign : Sign, text = sign.text ++ dropSign text := by
  unfold dropSign
  split
  · exact ⟨.plus, rfl⟩
  · exact ⟨.minus, rfl⟩
  · exact ⟨.implicit, rfl⟩

/-- Without its sign a numeral without a point is its digits. -/
theorem dropSign_text (whole : numeral.IsWhole) : dropSign numeral.text = numeral.whole := by
  rw [whole.text_eq]
  cases numeral.sign with
  | plus => rfl
  | minus => rfl
  | implicit =>
    show dropSign numeral.whole = numeral.whole
    have areDigits := numeral.whole_areDigits
    unfold dropSign
    split
    · rename_i plus
      rw [plus] at areDigits
      cases areDigits _ List.mem_cons_self
    · rename_i minus
      rw [minus] at areDigits
      cases areDigits _ List.mem_cons_self
    · rfl

/-- **An optional sign and one or more digits** are a numeral without a point. -/
theorem isIntegerNumeral_iff :
    isIntegerNumeral text = true ↔
      ∃ numeral : DecimalNumeral, numeral.IsWhole ∧ numeral.text = text := by
  constructor
  · intro accepted
    rw [isIntegerNumeral, Bool.and_eq_true, Bool.not_eq_true', List.isEmpty_eq_false_iff,
      List.all_eq_true] at accepted
    obtain ⟨sign, same⟩ := exists_sign text
    let numeral : DecimalNumeral :=
      ⟨sign, dropSign text, none, by simpa using accepted.2, by simpa using accepted.1⟩
    have whole : numeral.IsWhole := rfl
    exact ⟨numeral, whole, whole.text_eq.trans same.symm⟩
  · rintro ⟨numeral, whole, rfl⟩
    rw [isIntegerNumeral, dropSign_text whole, Bool.and_eq_true, Bool.not_eq_true',
      List.isEmpty_eq_false_iff, List.all_eq_true]
    exact ⟨whole.whole_ne_nil, numeral.whole_areDigits⟩

end Literal

end QueryAlgebra
