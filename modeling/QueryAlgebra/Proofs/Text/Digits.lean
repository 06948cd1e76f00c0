/-
**Digits and the numbers that they denote.**

Digits in front of others denote as many times a power of ten as there are others
(`valueOf_append`). As many digits as given denote each number below that power of ten in one way
(`eq_of_valueOf_eq`), and without a zero in front there is one way to write a number at all
(`digitsOf_valueOf`).
-/
import Mathlib.Data.Nat.Digits.Lemmas
import QueryAlgebra.Decimal.Basic
import QueryAlgebra.Text.Blank

namespace QueryAlgebra

theorem tenTo_eq_pow (exponent : Nat) : tenTo exponent = 10 ^ exponent := rfl

namespace Text

variable {digits : List Char}

/-! ### One digit -/

theorem isDigit_iff {c : Char} : isDigit c = true ↔ 48 ≤ c.toNat ∧ c.toNat ≤ 57 := by
  rw [isDigit, Bool.and_eq_true, decide_eq_true_eq, decide_eq_true_eq]
  exact Iff.rfl

theorem isBlank_of_isDigit {c : Char} (digit : isDigit c = true) : isBlank c = false := by
  have bounds := isDigit_iff.mp digit
  refine Bool.eq_false_iff.mpr fun blank => ?_
  simp only [isBlank, Bool.or_eq_true, Bool.and_eq_true, decide_eq_true_eq, beq_iff_eq] at blank
  omega

theorem digitValue_lt {c : Char} (digit : isDigit c = true) : digitValue c < 10 := by
  have bounds := isDigit_iff.mp digit
  have zero : '0'.toNat = 48 := rfl
  rw [digitValue, zero]
  omega

/-- A digit is that of its value. -/
theorem digitChar_digitValue {c : Char} (digit : isDigit c = true) :
    digitChar (digitValue c) = c := by
  have bounds := isDigit_iff.mp digit
  have zero : '0'.toNat = 48 := rfl
  have code : '0'.toNat + digitValue c = c.toNat := by
    rw [digitValue, zero]
    omega
  rw [digitChar, code, Char.ofNat_toNat]

theorem digitValue_pos {c : Char} (digit : isDigit c = true) (nonzero : c ≠ '0') :
    0 < digitValue c := by
  refine Nat.pos_of_ne_zero fun zero => nonzero ?_
  rw [← digitChar_digitValue digit, zero]
  rfl

/-! ### The number of digits -/

theorem valueOf_append_singleton (front : List Char) (last : Char) :
    valueOf (front ++ [last]) = 10 * valueOf front + digitValue last := by
  rw [valueOf, valueFrom_append]
  rfl

theorem valueFrom_eq (start : Nat) (digits : List Char) :
    valueFrom start digits = start * 10 ^ digits.length + valueOf digits := by
  induction digits using List.reverseRecOn with
  | nil => exact (Nat.mul_one start).symm
  | append_singleton front last inFront =>
    have step : valueFrom start (front ++ [last]) =
        10 * valueFrom start front + digitValue last := valueFrom_append start front [last]
    rw [step, inFront, valueOf_append_singleton, List.length_append, List.length_singleton,
      Nat.pow_succ, Nat.mul_add, Nat.add_assoc, Nat.mul_comm 10, Nat.mul_assoc]

/-- The number of digits is that of their values in base ten. -/
theorem valueOf_eq_ofDigits (digits : List Char) :
    valueOf digits = Nat.ofDigits 10 (digits.reverse.map digitValue) := by
  induction digits using List.reverseRecOn with
  | nil => rfl
  | append_singleton front last inFront =>
    rw [valueOf_append_singleton, List.reverse_append, List.reverse_singleton,
      List.singleton_append, List.map_cons, Nat.ofDigits_cons, ← inFront, Nat.add_comm]

/-- **Digits in front of others** count as many tens as these have places. -/
theorem valueOf_append (front back : List Char) :
    valueOf (front ++ back) = valueOf front * 10 ^ back.length + valueOf back :=
  (valueFrom_append 0 front back).trans (valueFrom_eq (valueOf front) back)

theorem mem_values_lt (areDigits : ∀ c ∈ digits, isDigit c = true) :
    ∀ value ∈ digits.reverse.map digitValue, value < 10 := by
  rw [List.forall_mem_map]
  exact fun c member => digitValue_lt (areDigits c (List.mem_reverse.mp member))

theorem valueOf_lt (areDigits : ∀ c ∈ digits, isDigit c = true) :
    valueOf digits < 10 ^ digits.length := by
  have bound := Nat.ofDigits_lt_base_pow_length (by decide) (mem_values_lt areDigits)
  rwa [← valueOf_eq_ofDigits, List.length_map, List.length_reverse] at bound

theorem map_digitChar_digitValue (areDigits : ∀ c ∈ digits, isDigit c = true) :
    (digits.map digitValue).map digitChar = digits := by
  rw [List.map_map]
  exact (List.map_congr_left fun c member => digitChar_digitValue (areDigits c member)).trans
    (List.map_id _)

/-- **As many digits denote a number in one way.** -/
theorem eq_of_valueOf_eq {others : List Char} (areDigits : ∀ c ∈ digits, isDigit c = true)
    (othersAreDigits : ∀ c ∈ others, isDigit c = true) (sameLength : digits.length = others.length)
    (sameValue : valueOf digits = valueOf others) : digits = others := by
  rw [valueOf_eq_ofDigits, valueOf_eq_ofDigits] at sameValue
  have lengths : (digits.reverse.map digitValue).length = (others.reverse.map digitValue).length := by
    simp [sameLength]
  have values := Nat.ofDigits_inj_of_len_eq (by decide) lengths (mem_values_lt areDigits)
    (mem_values_lt othersAreDigits) sameValue
  rw [List.map_reverse, List.map_reverse, List.reverse_inj] at values
  rw [← map_digitChar_digitValue areDigits, values, map_digitChar_digitValue othersAreDigits]

/-- Only zeros denote zero. -/
theorem valueOf_eq_zero_iff (areDigits : ∀ c ∈ digits, isDigit c = true) :
    valueOf digits = 0 ↔ ∀ c ∈ digits, c = '0' := by
  induction digits using List.reverseRecOn with
  | nil => exact iff_of_true rfl nofun
  | append_singleton front last inFront =>
    rw [List.forall_mem_append, List.forall_mem_singleton] at areDigits
    have isZero : digitValue last = 0 ↔ last = '0' := by
      constructor
      · intro zero
        by_contra nonzero
        have := digitValue_pos areDigits.2 nonzero
        omega
      · rintro rfl
        rfl
    rw [valueOf_append_singleton, List.forall_mem_append, List.forall_mem_singleton,
      ← inFront areDigits.1, ← isZero]
    omega

/-! ### The digits of a number -/

theorem digitsOf_of_lt {number : Nat} (small : number < 10) :
    digitsOf number = [digitChar number] := by
  rw [digitsOf, if_pos small]

theorem digitsOf_of_le {number : Nat} (large : 10 ≤ number) :
    digitsOf number = digitsOf (number / 10) ++ [digitChar (number % 10)] := by
  rw [digitsOf, if_neg (by omega)]

theorem digitsOf_ne_nil (number : Nat) : digitsOf number ≠ [] := by
  rw [digitsOf]
  split
  · exact List.cons_ne_nil _ _
  · exact List.append_ne_nil_of_right_ne_nil _ (List.cons_ne_nil _ _)

/-- Only zero is written with a zero in front. -/
theorem head?_digitsOf {number : Nat} (zero : (digitsOf number).head? = some '0') : number = 0 := by
  induction number using Nat.strongRecOn with
  | ind number smaller =>
    by_cases small : number < 10
    · rw [digitsOf_of_lt small, List.head?_cons, Option.some.injEq] at zero
      rw [← digitValue_digitChar small, zero]
      rfl
    · rw [digitsOf_of_le (by omega), List.head?_append_of_ne_nil _ (digitsOf_ne_nil _)] at zero
      have := smaller (number / 10) (by omega) zero
      omega

/-- **Without a zero in front there is one way to write a number.** -/
theorem digitsOf_valueOf (areDigits : ∀ c ∈ digits, isDigit c = true) (present : digits ≠ [])
    (noZero : digits.head? = some '0' → digits = ['0']) : digitsOf (valueOf digits) = digits := by
  induction digits using List.reverseRecOn with
  | nil => exact absurd rfl present
  | append_singleton front last inFront =>
    rw [List.forall_mem_append, List.forall_mem_singleton] at areDigits
    obtain ⟨frontDigits, lastDigit⟩ := areDigits
    have below := digitValue_lt lastDigit
    rw [valueOf_append_singleton]
    by_cases alone : front = []
    · subst alone
      rw [show valueOf [] = 0 from rfl, Nat.mul_zero, Nat.zero_add, digitsOf_of_lt below,
        digitChar_digitValue lastDigit, List.nil_append]
    · -- more digits stand behind the first, which is no zero then
      have noZeroFront : front.head? ≠ some '0' := by
        intro zero
        have same := noZero (by rw [List.head?_append_of_ne_nil _ alone, zero])
        exact alone (List.append_eq_singleton_iff.mp same |>.resolve_right
          (fun both => absurd both.2 (List.cons_ne_nil _ _))).1
      have again := inFront frontDigits alone fun zero => absurd zero noZeroFront
      have positive : valueOf front ≠ 0 := by
        intro zero
        rw [zero, digitsOf_of_lt (by decide)] at again
        exact noZeroFront (again ▸ rfl)
      rw [digitsOf_of_le (by omega), Nat.mul_add_div (by decide), Nat.div_eq_of_lt below,
        Nat.add_zero, again, Nat.mul_add_mod, Nat.mod_eq_of_lt below,
        digitChar_digitValue lastDigit]

/-- The number of digits of a number below a power of ten. -/
theorem length_digitsOf_le {number length : Nat} (below : number < 10 ^ length)
    (positive : 0 < length) : (digitsOf number).length ≤ length := by
  induction length generalizing number with
  | zero => omega
  | succ length shorter =>
    by_cases small : number < 10
    · rw [digitsOf_of_lt small, List.length_singleton]
      omega
    · have quotient : number / 10 < 10 ^ length := by
        rw [Nat.pow_succ] at below
        omega
      have positive : 0 < length := by
        refine Nat.pos_of_ne_zero fun zero => ?_
        rw [zero] at below
        omega
      have := shorter quotient positive
      rw [digitsOf_of_le (by omega), List.length_append, List.length_singleton]
      omega

end Text

end QueryAlgebra
