/-
**Decimals with an exponent.**

Behind the digits of a decimal an exponent may move its point, by at most 28 places in one direction
or the other (`isReading_shiftUp?`, `isReading_shiftDown?`). So a text denotes a number to the
reader of decimals when it is a spelling of a numeral, or one with an exponent behind it
(`Denotes`). It is read unless this number is too far from zero (`isReading_ofText?`), and nothing
else is read (`denotes_of_ofText?`).
-/
import Mathlib.Data.List.TakeWhile
import QueryAlgebra.Proofs.Decimal.Rounding

namespace QueryAlgebra

open Text

namespace Decimal

variable {decimal moved : Decimal} {count : Nat}

/-! ### Moving the point -/

theorem abs_value (decimal : Decimal) :
    |decimal.value| = decimal.mantissa / 10 ^ decimal.scale := by
  rw [value, abs_mul, Sign.abs_factor, one_mul, abs_of_nonneg (by positivity)]

/-- A whole number is read unless it is too far from zero. -/
theorem isReading_whole (negative : Bool) (number : Nat) :
    IsReading number (ofParts? negative number 0) := by
  by_cases fits : number < twoTo 96
  · have exact : IsReading ((number : Rat) / 10 ^ 0) (ofParts? negative number 0) :=
      isReading_exact fits (Nat.zero_le 28)
    rwa [pow_zero, div_one] at exact
  · have absent : ofParts? negative number 0 = none := dif_neg fun bounds => fits bounds.1
    have inRat : (twoTo 96 : Rat) ≤ number := by exact_mod_cast Nat.le_of_not_lt fits
    rw [absent]
    exact isReading_none (limit_le inRat)

/-- **The point is moved to the right** as long as there is room. -/
theorem isReading_shiftUp? (small : count ≤ 28) :
    IsReading |decimal.value * 10 ^ count| (decimal.shiftUp? count) := by
  rw [abs_mul, abs_value, abs_of_nonneg (by positivity : (0 : Rat) ≤ 10 ^ count), shiftUp?]
  by_cases inFraction : count ≤ decimal.scale
  · have same : (decimal.mantissa : Rat) / 10 ^ decimal.scale * 10 ^ count =
        decimal.mantissa / 10 ^ (decimal.scale - count) := by
      rw [← Nat.sub_add_cancel inFraction, pow_add, Nat.add_sub_cancel]
      field_simp
    have inScale := decimal.scale_le
    rw [if_pos inFraction, same]
    exact isReading_exact decimal.mantissa_lt (by omega)
  · have same : (decimal.mantissa : Rat) / 10 ^ decimal.scale * 10 ^ count =
        (decimal.mantissa * tenTo (count - decimal.scale) : Nat) := by
      have above : count = count - decimal.scale + decimal.scale := by omega
      conv_lhs => rw [above, pow_add]
      rw [tenTo_eq_pow]
      push_cast
      field_simp
    rw [if_neg inFraction, if_neg (by omega), same]
    exact isReading_whole _ _

theorem le_of_shiftUp? (shifts : decimal.shiftUp? count = some moved) : count ≤ 28 := by
  have inScale := decimal.scale_le
  rw [shiftUp?] at shifts
  split_ifs at shifts <;> omega

/-- A quotient that is rounded, a half going up. -/
theorem rounded_spec {number half : Nat} (positive : 0 < half) (below : number < twoTo 96) :
    (number + half) / (2 * half) < twoTo 96 ∧
      ((number + half) / (2 * half) = 0 ↔ number < half) := by
  constructor
  · have more : twoTo 96 + half ≤ twoTo 96 * (2 * half) := by
      nlinarith [twoTo_pos 96]
    rw [Nat.div_lt_iff_lt_mul (by omega)]
    omega
  · rw [Nat.div_eq_zero_iff]
    omega

/-- **The point is moved to the left**, and what comes to stand behind the last place is rounded. -/
theorem isReading_shiftDown? (small : count ≤ 28) :
    IsReading |decimal.value / 10 ^ count| (decimal.shiftDown? count) := by
  rw [abs_div, abs_value, abs_of_nonneg (by positivity : (0 : Rat) ≤ 10 ^ count), div_div,
    ← pow_add, shiftDown?, if_neg (by omega), roundTo]
  by_cases fits : decimal.scale ≤ 28 - count
  · rw [if_pos fits]
    exact isReading_exact decimal.mantissa_lt (by omega)
  · obtain ⟨further, above⟩ : ∃ further, decimal.scale - (28 - count) = further + 1 :=
      ⟨decimal.scale - (28 - count) - 1, by omega⟩
    have places : decimal.scale + count = 28 + (further + 1) := by omega
    have dropped : tenTo (decimal.scale - (28 - count)) = 2 * (5 * 10 ^ further) := by
      rw [above, tenTo_eq_pow, Nat.pow_succ]
      omega
    have positive : 0 < 5 * 10 ^ further := by positivity
    obtain ⟨bounded, isZero⟩ := rounded_spec positive decimal.mantissa_lt
    have halved : 2 * (5 * 10 ^ further) / 2 = 5 * 10 ^ further := by omega
    simp only [if_neg fits, dropped, halved]
    rw [ofParts?_eq_some bounded (by omega), Option.bind_some, places]
    have inScale : 28 - count + count ≤ 28 := by omega
    refine isReading_ofParts? bounded inScale (div_lt_limit (Nat.cast_nonneg _) ?_)
      (isZero.trans ?_)
    · have inRat : (decimal.mantissa : Rat) + 1 ≤ twoTo 96 := by
        exact_mod_cast decimal.mantissa_lt
      rw [limit]
      linarith
    · have same : halfUnit * 10 ^ (28 + (further + 1)) = ((5 * 10 ^ further : Nat) : Rat) := by
        rw [halfUnit, pow_add, pow_succ]
        push_cast
        ring
      rw [div_lt_iff₀ (by positivity), same, Nat.cast_lt]

theorem le_of_shiftDown? (shifts : decimal.shiftDown? count = some moved) : count ≤ 28 := by
  rw [shiftDown?] at shifts
  split_ifs at shifts
  omega

/-! ### Exponents -/

variable {text : List Char}

/-- The number of places that digits give, with a plus sign in front of them or without. -/
inductive IsCount : List Char → Nat → Prop
  | bare {digits : List Char} (areDigits : ∀ c ∈ digits, isDigit c = true) (present : digits ≠ []) :
      IsCount digits (valueOf digits)
  | plus {digits : List Char} (areDigits : ∀ c ∈ digits, isDigit c = true) (present : digits ≠ []) :
      IsCount ('+' :: digits) (valueOf digits)

/-- The power of ten that an exponent gives; a minus sign stands in front of everything else. -/
inductive IsExponent : List Char → Int → Prop
  | up {text : List Char} {count : Nat} (isCount : IsCount text count) : IsExponent text count
  | down {text : List Char} {count : Nat} (isCount : IsCount text count) :
      IsExponent ('-' :: text) (-count)

theorem isCount_of_readExponent? (read : readExponent? text = some count) : IsCount text count := by
  unfold readExponent? at read
  simp only at read
  split_ifs at read with malformed fits
  rw [Option.some.injEq] at read
  subst read
  rw [Bool.or_eq_true, not_or, Bool.not_eq_true', Bool.not_eq_false, List.isEmpty_iff,
    List.all_eq_true] at malformed
  revert malformed
  split
  · exact fun ⟨present, areDigits⟩ => .plus areDigits present
  · exact fun ⟨present, areDigits⟩ => .bare areDigits present

theorem readExponent?_of_isCount (isCount : IsCount text count) (small : count < twoTo 32) :
    readExponent? text = some count := by
  cases isCount with
  | plus areDigits present =>
    have fine : (List.isEmpty _ || !List.all _ isDigit) = false :=
      Bool.or_eq_false_iff.mpr ⟨List.isEmpty_eq_false_iff.mpr present,
        by rw [List.all_eq_true.mpr areDigits]; rfl⟩
    simp only [readExponent?, fine, Bool.false_eq_true, if_false, if_pos small]
  | bare areDigits present =>
    have fine : (List.isEmpty _ || !List.all _ isDigit) = false :=
      Bool.or_eq_false_iff.mpr ⟨List.isEmpty_eq_false_iff.mpr present,
        by rw [List.all_eq_true.mpr areDigits]; rfl⟩
    unfold readExponent?
    split
    · cases areDigits _ List.mem_cons_self
    · simp only [fine, Bool.false_eq_true, if_false, if_pos small]

/-- The decimal with its point moved as an exponent says. -/
def shiftBy? (decimal : Decimal) (exponent : List Char) : Option Decimal :=
  match exponent with
  | '-' :: digits => (readExponent? digits).bind decimal.shiftDown?
  | digits => (readExponent? digits).bind decimal.shiftUp?

theorem shiftBy?_of_isCount (isCount : IsCount text count) :
    decimal.shiftBy? text = (readExponent? text).bind decimal.shiftUp? := by
  unfold shiftBy?
  split
  · cases isCount with
    | bare areDigits present => cases areDigits _ List.mem_cons_self
  · rfl

/-- **An exponent of so many places moves the point.** -/
theorem isReading_shiftBy? {power : Int} (isExponent : IsExponent text power)
    (small : |power| ≤ 28) : IsReading |decimal.value * 10 ^ power| (decimal.shiftBy? text) := by
  have fewer : 28 < twoTo 32 := by decide
  cases isExponent with
  | up isCount =>
    rename_i count
    have inPlaces : count ≤ 28 := by rwa [Nat.abs_cast, Nat.cast_le_ofNat] at small
    rw [shiftBy?_of_isCount isCount, readExponent?_of_isCount isCount (by omega), Option.bind_some,
      zpow_natCast]
    exact isReading_shiftUp? inPlaces
  | down isCount =>
    rename_i digits count
    have inPlaces : count ≤ 28 := by rwa [abs_neg, Nat.abs_cast, Nat.cast_le_ofNat] at small
    show IsReading _ ((readExponent? digits).bind decimal.shiftDown?)
    rw [readExponent?_of_isCount isCount (by omega), Option.bind_some, zpow_neg, zpow_natCast,
      ← div_eq_mul_inv]
    exact isReading_shiftDown? inPlaces

/-- Nothing else moves it. -/
theorem isExponent_of_shiftBy? (shifts : decimal.shiftBy? text = some moved) :
    ∃ power, IsExponent text power ∧ |power| ≤ 28 := by
  unfold shiftBy? at shifts
  split at shifts
  · obtain ⟨count, read, shifts⟩ := Option.bind_eq_some_iff.mp shifts
    refine ⟨-count, .down (isCount_of_readExponent? read), ?_⟩
    rw [abs_neg, Nat.abs_cast]
    exact_mod_cast le_of_shiftDown? shifts
  · obtain ⟨count, read, shifts⟩ := Option.bind_eq_some_iff.mp shifts
    refine ⟨count, .up (isCount_of_readExponent? read), ?_⟩
    rw [Nat.abs_cast]
    exact_mod_cast le_of_shiftUp? shifts

/-! ### Texts -/

/-- The number that a text denotes to the reader: that of the numeral that it spells, or that of the
decimal in front of an exponent of few places, with its point moved. -/
inductive Denotes : List Char → Rat → Prop
  | plain {numeral : DecimalNumeral} {text : List Char} (spelled : numeral.IsSpelled text) :
      Denotes text numeral.value
  | scaled {base exponent : List Char} {mark : Char} {decimal : Decimal} {power : Int}
      (noMark : ∀ c ∈ base, isExponentMark c = false) (isMark : isExponentMark mark = true)
      (read : ofPlainText? base = some decimal) (isExponent : IsExponent exponent power)
      (small : |power| ≤ 28) :
      Denotes (base ++ mark :: exponent) (decimal.value * 10 ^ power)

theorem isExponentMark_of_isSpelled {numeral : DecimalNumeral} (spelled : numeral.IsSpelled text) :
    ∀ c ∈ text, isExponentMark c = false := by
  intro c member
  by_cases separator : c = '_'
  · subst separator
    rfl
  · have kept : c ∈ withoutSeparators text := List.mem_filter.mpr ⟨member, by simpa using separator⟩
    exact isExponentMark_eq_false (DecimalNumeral.mem_text (spelled.form ▸ kept))

theorem ofScientificText?_append {base exponent : List Char} {mark : Char}
    (noMark : ∀ c ∈ base, isExponentMark c = false) (isMark : isExponentMark mark = true) :
    ofScientificText? (base ++ mark :: exponent) =
      (ofPlainText? base).bind fun decimal => decimal.shiftBy? exponent := by
  have passes : ∀ c ∈ base, (!isExponentMark c) = true := fun c member => by
    rw [noMark c member]
    rfl
  have stops : (!isExponentMark mark) = false := by
    rw [isMark]
    rfl
  rw [ofScientificText?, List.takeWhile_append_of_pos passes, List.dropWhile_append_of_pos passes,
    List.takeWhile_cons_of_neg (by simp [isMark]), List.dropWhile_cons_of_neg (by simp [isMark]),
    List.append_nil]
  rfl

/-- **A text is read as the number that it denotes**, unless this is too far from zero. -/
theorem isReading_ofText? {number : Rat} (denotes : Denotes text number) :
    IsReading |number| (ofText? text) := by
  cases denotes with
  | plain spelled =>
    have noExponent := ofScientificText?_eq_none (isExponentMark_of_isSpelled spelled)
    have same : ofText? text = ofPlainText? text := by
      rw [ofText?, noExponent]
      cases ofPlainText? text <;> rfl
    rw [same]
    exact isReading_ofPlainText? spelled
  | scaled noMark isMark read isExponent small =>
    rename_i base exponent mark decimal power
    have notPlain : ofPlainText? (base ++ mark :: exponent) = none := by
      refine Option.eq_none_iff_forall_ne_some.mpr fun other plain => ?_
      obtain ⟨numeral, spelled⟩ := isSpelled_of_ofPlainText? plain
      have noMark := isExponentMark_of_isSpelled spelled mark (by simp)
      cases noMark.symm.trans isMark
    rw [ofText?, notPlain]
    show IsReading _ (ofScientificText? _)
    rw [ofScientificText?_append noMark isMark, read]
    exact isReading_shiftBy? isExponent small

/-- **What is read denotes a number.** -/
theorem denotes_of_ofText? (read : ofText? text = some decimal) :
    ∃ number, Denotes text number := by
  rw [ofText?] at read
  split at read
  · rename_i plain
    obtain ⟨numeral, spelled⟩ := isSpelled_of_ofPlainText? plain
    exact ⟨numeral.value, .plain spelled⟩
  · cases shape : text.dropWhile (!isExponentMark ·) with
    | nil =>
      rw [ofScientificText?, shape] at read
      cases read
    | cons mark exponent =>
      have noMark : ∀ c ∈ text.takeWhile (!isExponentMark ·), isExponentMark c = false :=
        fun c member => by simpa using List.mem_takeWhile_imp member
      have isMark : isExponentMark mark = true := by
        have stops := List.head?_dropWhile_not (!isExponentMark ·) text
        rw [shape] at stops
        simpa using stops
      have parts : text.takeWhile (!isExponentMark ·) ++ mark :: exponent = text := by
        rw [← shape, List.takeWhile_append_dropWhile]
      rw [← parts, ofScientificText?_append noMark isMark] at read
      obtain ⟨base, plain, shifts⟩ := Option.bind_eq_some_iff.mp read
      obtain ⟨power, isExponent, small⟩ := isExponent_of_shiftBy? shifts
      have denotes := Denotes.scaled noMark isMark plain isExponent small
      rw [parts] at denotes
      exact ⟨_, denotes⟩

/-- **What is read** are the texts that denote a number up to the limit. -/
theorem exists_ofText?_iff :
    (∃ decimal, ofText? text = some decimal) ↔
      ∃ number, Denotes text number ∧ |number| < limit := by
  constructor
  · rintro ⟨decimal, read⟩
    obtain ⟨number, denotes⟩ := denotes_of_ofText? read
    exact ⟨number, denotes, (isReading_ofText? denotes).exists_iff.mp ⟨decimal, read⟩⟩
  · rintro ⟨number, denotes, near⟩
    exact (isReading_ofText? denotes).exists_iff.mpr near

end Decimal

end QueryAlgebra
