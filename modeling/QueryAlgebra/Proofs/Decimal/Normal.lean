/-
**Normal decimals and their text.**

A decimal is *normal* when its fraction does not end in a zero and zero has no sign. `normalize` keeps
the number and makes the decimal normal (`value_normalize`, `isNormal_normalize`). The text of a
decimal is a numeral of the same number (`text_numeral`, `value_numeral`), and that of a normal
decimal is canonical (`isCanonical_numeral`), so that the canonical text of a decimal is the canonical
numeral of its number (`canonical_eq`, `value_canonicalNumeral`).
-/
import Mathlib.Algebra.Order.Floor.Ring
import Mathlib.Data.Rat.Floor
import QueryAlgebra.Proofs.Decimal.Numeral

namespace QueryAlgebra

open Text

/-- The whole part of a number, cut toward zero. -/
def wholePart (number : Rat) : Int := if 0 ≤ number then ⌊number⌋ else ⌈number⌉

namespace Decimal

variable {decimal : Decimal}

/-- The sign that a decimal is written with. -/
def sign (decimal : Decimal) : Sign := if decimal.negative then .minus else .implicit

/-- The number that a decimal stands for. -/
def value (decimal : Decimal) : Rat :=
  decimal.sign.factor * (decimal.mantissa / 10 ^ decimal.scale)

/-- Whether the fraction does not end in a zero and zero has no sign. -/
structure IsNormal (decimal : Decimal) : Prop where
  noTrailingZero : 0 < decimal.scale → decimal.mantissa % 10 ≠ 0
  noNegativeZero : decimal.negative = true → decimal.mantissa ≠ 0

/-! ### Dropping zeros -/

/-- What is left of a mantissa is as many tens fewer as zeros were dropped. -/
theorem dropZeros_eq (mantissa scale : Nat) :
    (dropZeros mantissa scale).1 * 10 ^ scale = mantissa * 10 ^ (dropZeros mantissa scale).2 := by
  induction scale generalizing mantissa with
  | zero => rfl
  | succ scale shorter =>
    unfold dropZeros
    by_cases zero : mantissa % 10 = 0
    · rw [if_pos zero]
      have tens : mantissa = mantissa / 10 * 10 := by omega
      calc (dropZeros (mantissa / 10) scale).1 * 10 ^ (scale + 1)
          = (dropZeros (mantissa / 10) scale).1 * 10 ^ scale * 10 := by
            rw [Nat.pow_succ, Nat.mul_assoc]
        _ = mantissa / 10 * 10 ^ (dropZeros (mantissa / 10) scale).2 * 10 := by rw [shorter]
        _ = mantissa * 10 ^ (dropZeros (mantissa / 10) scale).2 := by
          rw [Nat.mul_right_comm, ← tens]
    · rw [if_neg zero]

/-- No zero is left to drop. -/
theorem dropZeros_mod_ten (mantissa scale : Nat) (left : 0 < (dropZeros mantissa scale).2) :
    (dropZeros mantissa scale).1 % 10 ≠ 0 := by
  induction scale generalizing mantissa with
  | zero => exact absurd left (Nat.lt_irrefl 0)
  | succ scale shorter =>
    unfold dropZeros at left ⊢
    by_cases zero : mantissa % 10 = 0
    · rw [if_pos zero] at left ⊢
      exact shorter _ left
    · rw [if_neg zero]
      exact zero

/-! ### Normal decimals -/

/-- **A decimal is made normal.** -/
theorem isNormal_normalize (decimal : Decimal) : decimal.normalize.IsNormal where
  noTrailingZero := dropZeros_mod_ten decimal.mantissa decimal.scale
  noNegativeZero := by
    intro negative zero
    have same := dropZeros_eq decimal.mantissa decimal.scale
    rw [show (dropZeros decimal.mantissa decimal.scale).1 = 0 from zero, Nat.zero_mul] at same
    have mantissa : decimal.mantissa = 0 :=
      (Nat.mul_eq_zero.mp same.symm).resolve_right (Nat.pow_pos (by decide)).ne'
    simp [normalize, isZero, mantissa] at negative

/-- **The number stays the same.** -/
theorem value_normalize (decimal : Decimal) : decimal.normalize.value = decimal.value := by
  have same := dropZeros_eq decimal.mantissa decimal.scale
  have magnitude : (decimal.normalize.mantissa : Rat) / 10 ^ decimal.normalize.scale =
      decimal.mantissa / 10 ^ decimal.scale := by
    rw [div_eq_div_iff (by positivity) (by positivity)]
    exact_mod_cast same
  rw [value, value, magnitude]
  by_cases zero : decimal.mantissa = 0
  · rw [zero, Nat.cast_zero, zero_div, mul_zero, mul_zero]
  · have sameSign : decimal.normalize.sign = decimal.sign := by simp [sign, normalize, isZero, zero]
    rw [sameSign]

/-! ### Cutting toward zero -/

theorem floor_magnitude (decimal : Decimal) :
    ⌊(decimal.mantissa / 10 ^ decimal.scale : Rat)⌋ =
      ((decimal.mantissa / 10 ^ decimal.scale : Nat) : Int) := by
  have unit : (10 ^ decimal.scale : Rat) = (10 ^ decimal.scale : Nat) := by
    push_cast
    rfl
  rw [unit, Rat.floor_natCast_div_natCast]
  rfl

/-- **Truncation cuts toward zero.** -/
theorem value_truncate (decimal : Decimal) : decimal.truncate.value = wholePart decimal.value := by
  have cut : decimal.truncate.value = decimal.sign.factor *
      (((decimal.mantissa / 10 ^ decimal.scale : Nat) : Rat) / 10 ^ 0) := rfl
  have floor := floor_magnitude decimal
  have nonnegative : (0 : Rat) ≤ decimal.mantissa / 10 ^ decimal.scale := by positivity
  rw [cut, value, wholePart, pow_zero, div_one, sign]
  cases decimal.negative with
  | false =>
    rw [if_neg Bool.false_ne_true, Sign.factor, one_mul, one_mul, if_pos nonnegative, floor]
    rfl
  | true =>
    rw [if_pos rfl, Sign.factor, neg_one_mul, neg_one_mul, Int.ceil_neg, floor]
    split
    · rename_i nonpositive
      have zero : (decimal.mantissa / 10 ^ decimal.scale : Rat) = 0 :=
        le_antisymm (neg_nonneg.mp nonpositive) nonnegative
      rw [zero, Int.floor_zero] at floor
      rw [zero, neg_zero, Int.floor_zero, Nat.cast_eq_zero.mp floor.symm]
      rfl
    · push_cast
      rfl

theorem truncate_eq_self (whole : decimal.scale = 0) : decimal.truncate = decimal := by
  obtain ⟨negative, mantissa, scale, mantissa_lt, scale_le⟩ := decimal
  obtain rfl : scale = 0 := whole
  simp [truncate, tenTo_eq_pow]

/-! ### The numeral of a decimal -/

theorem isDigit_of_mem_paddedDigits {length number : Nat} :
    ∀ c ∈ paddedDigits length number, isDigit c = true := by
  intro c member
  rcases List.mem_append.mp member with zero | digit
  · rw [List.eq_of_mem_replicate zero]
    rfl
  · exact isDigit_of_mem_digitsOf digit

theorem length_paddedDigits {length number : Nat} (below : number < 10 ^ length)
    (positive : 0 < length) : (paddedDigits length number).length = length := by
  have := length_digitsOf_le below positive
  rw [paddedDigits, List.length_append, List.length_replicate]
  omega

theorem valueOf_replicate_zero (length : Nat) : valueOf (List.replicate length '0') = 0 := by
  induction length with
  | zero => rfl
  | succ length shorter =>
    rw [List.replicate_succ', valueOf_append_singleton, shorter]
    rfl

theorem valueOf_paddedDigits (length number : Nat) :
    valueOf (paddedDigits length number) = number := by
  rw [paddedDigits, valueOf_append, valueOf_replicate_zero, Nat.zero_mul, Nat.zero_add,
    valueOf_digitsOf]

/-- The digits behind the point of the text of a decimal. -/
def fractionDigits (decimal : Decimal) : Option (List Char) :=
  if decimal.scale = 0 then none
  else some (paddedDigits decimal.scale (decimal.mantissa % tenTo decimal.scale))

theorem isDigit_of_mem_fractionDigits (decimal : Decimal) :
    ∀ c ∈ decimal.fractionDigits.getD [], isDigit c = true := by
  rw [fractionDigits]
  split
  · exact List.forall_mem_nil _
  · exact isDigit_of_mem_paddedDigits

/-- The numeral that is the text of a decimal. -/
def numeral (decimal : Decimal) : DecimalNumeral where
  sign := decimal.sign
  whole := digitsOf (decimal.mantissa / tenTo decimal.scale)
  fraction := decimal.fractionDigits
  areDigits := List.forall_mem_append.mpr
    ⟨fun _ => isDigit_of_mem_digitsOf, decimal.isDigit_of_mem_fractionDigits⟩
  present := List.append_ne_nil_of_left_ne_nil (digitsOf_ne_nil _) _

/-- **The text of a decimal is a numeral.** -/
theorem text_numeral (decimal : Decimal) : decimal.numeral.text = decimal.toText := by
  simp only [DecimalNumeral.text, DecimalNumeral.unsigned, toText, numeral, sign, fractionDigits]
  cases decimal.negative <;> by_cases whole : decimal.scale = 0 <;> simp [whole, Sign.text]

/-- It has as many digits behind the point as the decimal. -/
theorem places_numeral (decimal : Decimal) : decimal.numeral.places = decimal.scale := by
  show (decimal.fractionDigits.getD []).length = decimal.scale
  rw [fractionDigits]
  split
  · rename_i whole
    exact whole.symm
  · rename_i pointed
    exact length_paddedDigits (Nat.mod_lt _ (tenTo_pos _)) (Nat.pos_of_ne_zero pointed)

theorem valueOf_fractionDigits (decimal : Decimal) :
    valueOf (decimal.fractionDigits.getD []) = decimal.mantissa % 10 ^ decimal.scale := by
  rw [fractionDigits]
  split
  · rename_i whole
    rw [whole, pow_zero, Nat.mod_one]
    rfl
  · exact valueOf_paddedDigits _ _

/-- Its digits are those of the mantissa. -/
theorem number_numeral (decimal : Decimal) : decimal.numeral.number = decimal.mantissa := by
  have places : (decimal.fractionDigits.getD []).length = decimal.scale := places_numeral decimal
  show valueOf (digitsOf (decimal.mantissa / tenTo decimal.scale) ++ decimal.fractionDigits.getD []) =
    decimal.mantissa
  rw [valueOf_append, valueOf_digitsOf, valueOf_fractionDigits, places, tenTo_eq_pow, Nat.mul_comm]
  exact Nat.div_add_mod _ _

/-- **The text of a decimal denotes its number.** -/
theorem value_numeral (decimal : Decimal) : decimal.numeral.value = decimal.value := by
  rw [DecimalNumeral.value, number_numeral, places_numeral]
  rfl

/-- **The text of a normal decimal is canonical.** -/
theorem IsNormal.isCanonical_numeral (normal : decimal.IsNormal) :
    decimal.numeral.IsCanonical where
  noPlus := by
    show decimal.sign ≠ .plus
    rw [sign]
    split <;> decide
  noNegativeZero := by
    intro minus
    rw [number_numeral]
    refine normal.noNegativeZero (eq_true_of_ne_false fun positive => ?_)
    have implicit : decimal.numeral.sign = .implicit := if_neg (by rw [positive]; decide)
    cases implicit.symm.trans minus
  wholePresent := digitsOf_ne_nil _
  noLeadingZero := by
    intro zero
    show digitsOf _ = _
    rw [head?_digitsOf zero, digitsOf_of_lt (by decide)]
    rfl
  noBarePoint := by
    intro bare
    have none : decimal.numeral.places = 0 := congrArg (fun part => (part.getD []).length) bare
    rw [places_numeral] at none
    have absent : decimal.numeral.fraction = .none := if_pos none
    cases absent.symm.trans bare
  noTrailingZero := by
    intro zero
    obtain ⟨front, same⟩ := List.getLast?_eq_some_iff.mp zero
    have pointed : 0 < decimal.scale := by
      rw [← places_numeral, DecimalNumeral.places, same]
      simp
    have tens := number_numeral decimal
    rw [DecimalNumeral.number, DecimalNumeral.digits, same, ← List.append_assoc,
      valueOf_append_singleton] at tens
    have none : digitValue '0' = 0 := rfl
    have := normal.noTrailingZero pointed
    omega

/-! ### The canonical numeral of a decimal -/

/-- The numeral that is the canonical text of a decimal. -/
def canonicalNumeral (decimal : Decimal) : DecimalNumeral := decimal.normalize.numeral

theorem canonical_eq (decimal : Decimal) :
    decimal.canonical = String.ofList decimal.canonicalNumeral.text :=
  congrArg String.ofList (text_numeral _).symm

theorem isCanonical_canonicalNumeral (decimal : Decimal) : decimal.canonicalNumeral.IsCanonical :=
  (isNormal_normalize decimal).isCanonical_numeral

/-- **The canonical text denotes the number of the decimal.** -/
theorem value_canonicalNumeral (decimal : Decimal) :
    decimal.canonicalNumeral.value = decimal.value :=
  (value_numeral _).trans (value_normalize decimal)

/-- That of a whole number has no point. -/
theorem fraction_canonicalNumeral (whole : decimal.scale = 0) :
    decimal.canonicalNumeral.fraction = none := by
  refine if_pos ?_
  show (dropZeros decimal.mantissa decimal.scale).2 = 0
  rw [whole, dropZeros]

end Decimal

end QueryAlgebra
