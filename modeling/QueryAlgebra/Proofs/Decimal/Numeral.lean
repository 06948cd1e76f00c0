/-
**Decimal numerals.**

A numeral is an optional sign and digits, of which some may stand behind a point; there is at least
one digit. It denotes the number of its digits, divided by ten for each digit behind the point
(`DecimalNumeral.value`). Different numerals may denote the same number, but the *canonical* ones do
not: they have no plus sign, no needless zero, no point without digits behind it and no sign before
zero (`IsCanonical.unique`).
-/
import Mathlib.Algebra.Field.Rat
import Mathlib.Algebra.Order.Ring.Unbundled.Rat
import Mathlib.Data.Rat.Cast.Order
import Mathlib.Tactic.FieldSimp
import Mathlib.Tactic.Linarith
import QueryAlgebra.Proofs.Text.Digits

namespace QueryAlgebra

open Text

/-- The sign that a numeral is written with. -/
inductive Sign
  | implicit
  | plus
  | minus
  deriving DecidableEq, Repr

namespace Sign

/-- The text of a sign. -/
def text : Sign → List Char
  | implicit => []
  | plus => ['+']
  | minus => ['-']

/-- The factor that a sign stands for. -/
def factor : Sign → Rat
  | implicit => 1
  | plus => 1
  | minus => -1

theorem abs_factor (sign : Sign) : |sign.factor| = 1 := by
  cases sign <;> simp [factor]

end Sign

/-- A decimal numeral. -/
structure DecimalNumeral where
  sign : Sign
  /-- The digits before the point. -/
  whole : List Char
  /-- The digits behind the point, if there is one. -/
  fraction : Option (List Char)
  areDigits : ∀ c ∈ whole ++ fraction.getD [], isDigit c = true
  present : whole ++ fraction.getD [] ≠ []

namespace DecimalNumeral

/-- The digits behind the point, none without a point. -/
def decimals (numeral : DecimalNumeral) : List Char := numeral.fraction.getD []

/-- The digits without the point. -/
def digits (numeral : DecimalNumeral) : List Char := numeral.whole ++ numeral.decimals

/-- The text of a numeral after its sign. -/
def unsigned (numeral : DecimalNumeral) : List Char :=
  numeral.whole ++
    match numeral.fraction with
    | none => []
    | some decimals => '.' :: decimals

/-- The text of a numeral. -/
def text (numeral : DecimalNumeral) : List Char := numeral.sign.text ++ numeral.unsigned

/-- The number of digits behind the point. -/
def places (numeral : DecimalNumeral) : Nat := numeral.decimals.length

/-- The digits read as one whole number. -/
def number (numeral : DecimalNumeral) : Nat := valueOf numeral.digits

/-- The number that a numeral denotes. -/
def value (numeral : DecimalNumeral) : Rat :=
  numeral.sign.factor * (numeral.number / 10 ^ numeral.places)

/-- Whether a numeral is the canonical one of its number. -/
structure IsCanonical (numeral : DecimalNumeral) : Prop where
  noPlus : numeral.sign ≠ .plus
  noNegativeZero : numeral.sign = .minus → numeral.number ≠ 0
  wholePresent : numeral.whole ≠ []
  noLeadingZero : numeral.whole.head? = some '0' → numeral.whole = ['0']
  noBarePoint : numeral.fraction ≠ some []
  noTrailingZero : numeral.decimals.getLast? ≠ some '0'

variable {numeral other : DecimalNumeral}

theorem whole_areDigits (numeral : DecimalNumeral) : ∀ c ∈ numeral.whole, isDigit c = true :=
  fun c member => numeral.areDigits c (List.mem_append_left _ member)

theorem decimals_areDigits (numeral : DecimalNumeral) : ∀ c ∈ numeral.decimals, isDigit c = true :=
  fun c member => numeral.areDigits c (List.mem_append_right _ member)

/-! ### The characters of a numeral -/

theorem mem_unsigned {c : Char} (member : c ∈ numeral.unsigned) : isDigit c = true ∨ c = '.' := by
  rcases List.mem_append.mp member with whole | behind
  · exact .inl (numeral.whole_areDigits c whole)
  · cases pointed : numeral.fraction with
    | none =>
      rw [pointed] at behind
      cases behind
    | some decimals =>
      rw [pointed] at behind
      rcases List.mem_cons.mp behind with point | fraction
      · exact .inr point
      · exact .inl (numeral.decimals_areDigits c (by rwa [DecimalNumeral.decimals, pointed]))

/-- A numeral without its sign starts with a digit or a point. -/
theorem unsigned_ne_cons (numeral : DecimalNumeral) {c : Char} (noDigit : isDigit c = false)
    (noPoint : c ≠ '.') (rest : List Char) : numeral.unsigned ≠ c :: rest := by
  intro shape
  rcases mem_unsigned (shape ▸ List.mem_cons_self) with digit | point
  · cases noDigit.symm.trans digit
  · exact noPoint point

theorem mem_text {c : Char} (member : c ∈ numeral.text) :
    isDigit c = true ∨ c ∈ ['.', '+', '-'] := by
  rcases List.mem_append.mp member with inSign | behind
  · revert inSign
    cases numeral.sign <;> simp +contextual [Sign.text]
  · exact (mem_unsigned behind).imp_right fun point => by simp [point]

/-- A numeral has no blanks. -/
theorem isBlank_of_mem_text {c : Char} (member : c ∈ numeral.text) : isBlank c = false := by
  rcases mem_text member with digit | mark
  · exact isBlank_of_isDigit digit
  · simp only [List.mem_cons, List.not_mem_nil, or_false] at mark
    rcases mark with rfl | rfl | rfl <;> rfl

theorem trim_text (numeral : DecimalNumeral) : trim numeral.text = numeral.text :=
  trim_eq_self (fun _ front => isBlank_of_mem_text (List.mem_of_mem_head? front))
    fun _ back => isBlank_of_mem_text (List.mem_of_mem_getLast? back)

/-! ### The canonical numeral of a number -/

/-- The digits before the point and those behind it, by division. -/
theorem number_div_mod (numeral : DecimalNumeral) :
    numeral.number / 10 ^ numeral.places = valueOf numeral.whole ∧
      numeral.number % 10 ^ numeral.places = valueOf numeral.decimals := by
  have below := valueOf_lt numeral.decimals_areDigits
  have positive : 0 < 10 ^ numeral.decimals.length := Nat.pow_pos (by decide)
  rw [number, digits, valueOf_append, places]
  constructor
  · rw [Nat.mul_comm, Nat.mul_add_div positive, Nat.div_eq_of_lt below, Nat.add_zero]
  · rw [Nat.mul_comm, Nat.mul_add_mod, Nat.mod_eq_of_lt below]

/-- The last digit behind the point of a canonical numeral is no zero. -/
theorem IsCanonical.number_mod_ten (canonical : numeral.IsCanonical) (pointed : 0 < numeral.places) :
    numeral.number % 10 ≠ 0 := by
  rcases List.eq_nil_or_concat' numeral.decimals with none | ⟨front, last, same⟩
  · rw [places, none] at pointed
    exact absurd pointed (Nat.lt_irrefl 0)
  · have lastDigit := numeral.decimals_areDigits last (by simp [same])
    have noZero := canonical.noTrailingZero
    rw [same, List.getLast?_concat, ne_eq, Option.some.injEq] at noZero
    have positive := digitValue_pos lastDigit noZero
    have below := digitValue_lt lastDigit
    rw [number, digits, same, ← List.append_assoc, valueOf_append_singleton]
    omega

/-- The fraction of a canonical numeral is told from the digits in it. -/
theorem IsCanonical.fraction_eq (canonical : numeral.IsCanonical) :
    numeral.fraction = if numeral.decimals = [] then none else some numeral.decimals := by
  have noBarePoint := canonical.noBarePoint
  rw [decimals]
  cases fraction : numeral.fraction with
  | none => rfl
  | some decimals =>
    rw [fraction] at noBarePoint
    rw [Option.getD_some, if_neg fun none => noBarePoint (by rw [none])]

/-- Canonical numerals with the same sign and the same digits are the same. -/
theorem IsCanonical.eq_of_number_eq (canonical : numeral.IsCanonical)
    (otherCanonical : other.IsCanonical) (sameSign : numeral.sign = other.sign)
    (samePlaces : numeral.places = other.places) (sameNumber : numeral.number = other.number) : numeral = other := by
  obtain ⟨whole, decimals⟩ := numeral.number_div_mod
  obtain ⟨otherWhole, otherDecimals⟩ := other.number_div_mod
  rw [sameNumber, samePlaces] at whole decimals
  have sameDecimals : numeral.decimals = other.decimals :=
    eq_of_valueOf_eq numeral.decimals_areDigits other.decimals_areDigits samePlaces
      (decimals.symm.trans otherDecimals)
  have sameWhole : numeral.whole = other.whole := by
    rw [← digitsOf_valueOf numeral.whole_areDigits canonical.wholePresent canonical.noLeadingZero,
      ← digitsOf_valueOf other.whole_areDigits otherCanonical.wholePresent
        otherCanonical.noLeadingZero, ← whole, ← otherWhole]
  have sameFraction : numeral.fraction = other.fraction := by
    rw [canonical.fraction_eq, otherCanonical.fraction_eq, sameDecimals]
  cases numeral
  cases other
  simp only [mk.injEq]
  exact ⟨sameSign, sameWhole, sameFraction⟩

/-- A canonical numeral has a minus sign exactly when its number is negative. -/
theorem IsCanonical.sign_eq (canonical : numeral.IsCanonical) :
    numeral.sign = if numeral.value < 0 then .minus else .implicit := by
  have power : (0 : Rat) < 10 ^ numeral.places := by positivity
  rw [value]
  cases sign : numeral.sign with
  | plus => exact absurd sign canonical.noPlus
  | implicit =>
    have nonnegative := div_nonneg (Nat.cast_nonneg numeral.number) power.le
    rw [Sign.factor, one_mul, if_neg (not_lt.mpr nonnegative)]
  | minus =>
    have nonzero : (0 : Rat) < numeral.number :=
      Nat.cast_pos.mpr (Nat.pos_of_ne_zero (canonical.noNegativeZero sign))
    rw [Sign.factor, neg_one_mul, if_pos (neg_lt_zero.mpr (div_pos nonzero power))]

/-- Of two numerals with the same magnitude a canonical one has no more digits behind the point. -/
theorem IsCanonical.places_le (canonical : numeral.IsCanonical)
    (same : numeral.number * 10 ^ other.places = other.number * 10 ^ numeral.places) :
    numeral.places ≤ other.places := by
  by_contra more
  obtain ⟨further, isFurther⟩ := Nat.exists_eq_add_of_lt (Nat.lt_of_not_le more)
  have nonzero := canonical.number_mod_ten (by omega)
  have multiple : numeral.number = other.number * 10 ^ further * 10 := by
    refine Nat.eq_of_mul_eq_mul_right (Nat.pow_pos (by decide : 0 < 10)) (same.trans ?_)
    rw [isFurther]
    ring
  omega

/-- **No two canonical numerals denote the same number.** -/
theorem IsCanonical.unique (canonical : numeral.IsCanonical) (otherCanonical : other.IsCanonical)
    (same : numeral.value = other.value) : numeral = other := by
  have sameSign : numeral.sign = other.sign := by
    rw [canonical.sign_eq, otherCanonical.sign_eq, same]
  have factor : other.sign.factor ≠ 0 := by
    cases other.sign <;> simp [Sign.factor]
  have magnitude : numeral.number * 10 ^ other.places = other.number * 10 ^ numeral.places := by
    rw [value, value, sameSign] at same
    have quotients := mul_left_cancel₀ factor same
    rw [div_eq_div_iff (by positivity) (by positivity)] at quotients
    exact_mod_cast quotients
  have samePlaces : numeral.places = other.places :=
    Nat.le_antisymm (canonical.places_le magnitude) (otherCanonical.places_le magnitude.symm)
  rw [samePlaces] at magnitude
  exact canonical.eq_of_number_eq otherCanonical sameSign samePlaces
    (Nat.eq_of_mul_eq_mul_right (Nat.pow_pos (by decide)) magnitude)

end DecimalNumeral

end QueryAlgebra
