/-
**How numerals are read that do not fit.**

A numeral is read unless the number that it denotes is too far from zero: half a unit and more
beyond the greatest mantissa (`limit`). What does not fit behind the point is rounded away, so a
number less than half a unit of the last place from zero is read as zero (`halfUnit`). Both are
`IsReading`, which is shown for what is dropped behind a mantissa (`isReading_down`,
`isReading_up`, `isReading_carry`), for the digits behind a point (`isReading_decimals`), for
numerals (`isReading_unsigned`) and so for their spellings (`isReading_ofPlainText?`).
-/
import QueryAlgebra.Proofs.Decimal.Spelling

namespace QueryAlgebra

open Text

/-! ### Parts of one -/

namespace Text

/-- The part of one that digits behind a point denote. -/
def partOf (digits : List Char) : Rat := valueOf digits / 10 ^ digits.length

theorem partOf_cons (first : Char) (digits : List Char) :
    partOf (first :: digits) = (digitValue first + partOf digits) / 10 := by
  have number : valueOf (first :: digits) =
      digitValue first * 10 ^ digits.length + valueOf digits :=
    (valueFrom_eq (10 * 0 + digitValue first) digits).trans (by rw [Nat.mul_zero, Nat.zero_add])
  rw [partOf, partOf, number, List.length_cons, pow_succ]
  push_cast
  field_simp

theorem partOf_nonneg (digits : List Char) : 0 ≤ partOf digits := by
  unfold partOf
  positivity

theorem partOf_lt_one {digits : List Char} (areDigits : ∀ c ∈ digits, isDigit c = true) :
    partOf digits < 1 := by
  rw [partOf, div_lt_one (by positivity)]
  exact_mod_cast valueOf_lt areDigits

end Text

namespace Decimal

variable {negative digitSeen : Bool} {mantissa scale : Nat} {digits : List Char}
  {decimal : Decimal}

/-- From this far away from zero a number rounds to more than 96 bits hold. -/
def limit : Rat := twoTo 96 - 1 / 2

/-- Half a unit of the last place; what is nearer to zero is rounded to it. -/
def halfUnit : Rat := 1 / 2 / 10 ^ 28

/-- How a number without its sign is read: not at all from the limit on, and as zero where it is
less than half a unit of the last place. -/
structure IsReading (magnitude : Rat) (reading : Option Decimal) : Prop where
  eq_none_iff : reading = none ↔ limit ≤ magnitude
  isZero_iff : ∀ decimal, reading = some decimal → (decimal.isZero = true ↔ magnitude < halfUnit)

theorem IsReading.exists_iff {magnitude : Rat} {reading : Option Decimal}
    (isReading : IsReading magnitude reading) :
    (∃ decimal, reading = some decimal) ↔ magnitude < limit := by
  rw [← Option.ne_none_iff_exists', ne_eq, isReading.eq_none_iff, not_le]

theorem isReading_none {magnitude : Rat} (beyond : limit ≤ magnitude) : IsReading magnitude none :=
  ⟨iff_of_true rfl beyond, fun _ read => absurd read (Option.some_ne_none _).symm⟩

theorem limit_le {magnitude : Rat} (beyond : (twoTo 96 : Rat) ≤ magnitude) : limit ≤ magnitude := by
  rw [limit]
  linarith

theorem ofParts?_eq_some (inMantissa : mantissa < twoTo 96) (inScale : scale ≤ 28) :
    ofParts? negative mantissa scale =
      some ⟨negative && mantissa != 0, mantissa, scale, inMantissa, inScale⟩ :=
  dif_pos ⟨inMantissa, inScale⟩

/-- A decimal that a number is read as. -/
theorem isReading_ofParts? {magnitude : Rat} (inMantissa : mantissa < twoTo 96)
    (inScale : scale ≤ 28) (room : magnitude < limit)
    (isZero : mantissa = 0 ↔ magnitude < halfUnit) :
    IsReading magnitude (ofParts? negative mantissa scale) := by
  rw [ofParts?_eq_some inMantissa inScale]
  refine ⟨⟨nofun, fun full => absurd room (not_lt.mpr full)⟩, fun decimal same => ?_⟩
  cases same
  rw [← isZero, Decimal.isZero, beq_iff_eq]

theorem div_lt_limit {number : Rat} (nonneg : 0 ≤ number) (near : number < limit) :
    number / 10 ^ scale < limit :=
  (div_le_self nonneg (one_le_pow₀ (by norm_num))).trans_lt near

/-- Half a unit of a scale is no less than one of the last place. -/
theorem not_lt_halfUnit {number : Rat} (inScale : scale ≤ 28) (half : 1 / 2 ≤ number) :
    ¬number / 10 ^ scale < halfUnit := by
  have atMost : (10 : Rat) ^ scale ≤ 10 ^ 28 := pow_le_pow_right₀ (by norm_num) inScale
  rw [not_lt, halfUnit]
  exact div_le_div₀ (by linarith) half (by positivity) atMost

/-! ### One dropped digit -/

variable {excess : Rat}

/-- **Less than half a unit** is dropped; a mantissa of zero has so little behind it that it counts
as zero. -/
theorem isReading_down (inMantissa : mantissa < twoTo 96) (inScale : scale ≤ 28)
    (nonneg : 0 ≤ excess) (under : excess < 1 / 2)
    (little : mantissa = 0 → excess < halfUnit * 10 ^ scale) :
    IsReading ((mantissa + excess) / 10 ^ scale) (ofParts? negative mantissa scale) := by
  have inRat : (mantissa : Rat) + 1 ≤ twoTo 96 := by exact_mod_cast inMantissa
  refine isReading_ofParts? inMantissa inScale (div_lt_limit (by positivity) ?_) ⟨?_, ?_⟩
  · rw [limit]
    linarith
  · intro zero
    rw [div_lt_iff₀ (by positivity), zero, Nat.cast_zero, zero_add]
    exact little zero
  · intro near
    by_contra nonzero
    have one : (1 : Rat) ≤ mantissa := by exact_mod_cast Nat.one_le_iff_ne_zero.mpr nonzero
    exact not_lt_halfUnit inScale (by linarith) near

/-- A whole number of units is read as it is. -/
theorem isReading_exact (inMantissa : mantissa < twoTo 96) (inScale : scale ≤ 28) :
    IsReading (mantissa / 10 ^ scale) (ofParts? negative mantissa scale) := by
  have little : 0 < halfUnit * 10 ^ scale := by
    rw [halfUnit]
    positivity
  have reading : IsReading ((mantissa + 0) / 10 ^ scale) (ofParts? negative mantissa scale) :=
    isReading_down inMantissa inScale le_rfl (by norm_num) fun _ => little
  rwa [add_zero] at reading

/-- **Half a unit and more** makes one unit more. -/
theorem isReading_up (fits : mantissa + 1 < twoTo 96) (inScale : scale ≤ 28)
    (atLeast : 1 / 2 ≤ excess) (below : excess < 1) :
    IsReading ((mantissa + excess) / 10 ^ scale) (ofParts? negative (mantissa + 1) scale) := by
  have inRat : (mantissa : Rat) + 1 + 1 ≤ twoTo 96 := by exact_mod_cast fits
  have fromZero : (0 : Rat) ≤ mantissa := Nat.cast_nonneg mantissa
  refine isReading_ofParts? fits inScale (div_lt_limit (by linarith) ?_)
    (iff_of_false (Nat.succ_ne_zero _) (not_lt_halfUnit inScale (by linarith)))
  rw [limit]
  linarith

/-- **The greatest mantissa takes no more units**: it gives up its own last digit, if it has one
behind the point. -/
theorem isReading_carry (greatest : mantissa + 1 = twoTo 96) (inScale : scale ≤ 28)
    (atLeast : 1 / 2 ≤ excess) (below : excess < 1) :
    IsReading ((mantissa + excess) / 10 ^ scale)
      (if scale = 0 then none else ofParts? negative ((mantissa + 5) / 10) (scale - 1)) := by
  have inRat : (mantissa : Rat) + 1 = twoTo 96 := by exact_mod_cast greatest
  have tens : 10 ≤ twoTo 96 := by decide
  have tensInRat : (10 : Rat) ≤ twoTo 96 := by exact_mod_cast tens
  cases scale with
  | zero =>
    rw [if_pos rfl, pow_zero, div_one]
    refine isReading_none ?_
    rw [limit]
    linarith
  | succ places =>
    have same : (mantissa + excess) / 10 ^ (places + 1) =
        (mantissa + excess) / 10 / 10 ^ places := by
      rw [pow_succ', div_div]
    rw [if_neg (Nat.succ_ne_zero places), Nat.add_sub_cancel, same]
    refine isReading_ofParts? (by omega) (by omega) (div_lt_limit (by linarith) ?_)
      (iff_of_false (by omega) (not_lt_halfUnit (by omega) (by linarith)))
    rw [limit]
    linarith

/-- **A number that is cut off behind a mantissa** is rounded at the first digit that is dropped. -/
theorem isReading_roundAt {digit : Nat} {rest : Rat} (inMantissa : mantissa < twoTo 96)
    (inScale : scale ≤ 28) (isDigit : digit < 10) (nonneg : 0 ≤ rest) (below : rest < 1)
    (full : scale = 28 ∨ twoTo 96 ≤ 10 * mantissa + digit) :
    IsReading ((mantissa + (digit + rest) / 10) / 10 ^ scale)
      (roundAt negative mantissa scale digit) := by
  have fromZero : (0 : Rat) ≤ digit := Nat.cast_nonneg digit
  have toTen : (digit : Rat) + 1 ≤ 10 := by exact_mod_cast isDigit
  have tens : 10 ≤ twoTo 96 := by decide
  rw [roundAt]
  by_cases down : digit < 5
  · have toFive : (digit : Rat) + 1 ≤ 5 := by exact_mod_cast down
    rw [if_pos down]
    refine isReading_down inMantissa inScale (by linarith) (by linarith) fun zero => ?_
    -- there is room for more digits behind a zero, so it is the places that are full
    have last : scale = 28 := full.resolve_right (by omega)
    rw [last, halfUnit, div_mul_cancel₀ _ (by positivity)]
    linarith
  · have fromFive : (5 : Rat) ≤ digit := by exact_mod_cast Nat.le_of_not_lt down
    rw [if_neg down]
    by_cases fits : mantissa + 1 < twoTo 96
    · rw [if_pos fits]
      exact isReading_up fits inScale (by linarith) (by linarith)
    · rw [if_neg fits]
      exact isReading_carry (by omega) inScale (by linarith) (by linarith)

/-! ### Digits behind the point and in front of it -/

/-- **Digits behind the point** are read or rounded away. -/
theorem isReading_decimals (areDigits : ∀ c ∈ digits, isDigit c = true)
    (inMantissa : mantissa < twoTo 96) (inScale : scale ≤ 28)
    (someDigit : digitSeen = true ∨ digits ≠ []) :
    IsReading ((mantissa + partOf digits) / 10 ^ scale)
      (readFrom negative mantissa scale true digitSeen digits) := by
  induction digits generalizing mantissa scale digitSeen with
  | nil =>
    have seen : digitSeen = true := someDigit.resolve_right fun none => none rfl
    have nothing : partOf [] = 0 := by simp [partOf, valueOf, valueFrom]
    rw [readFrom, if_pos seen, nothing, add_zero]
    exact isReading_exact inMantissa inScale
  | cons c rest inRest =>
    rw [List.forall_mem_cons] at areDigits
    rw [readFrom, if_pos areDigits.1, partOf_cons]
    simp only [if_true]
    by_cases fits : scale < 28 ∧ 10 * mantissa + digitValue c < twoTo 96
    · have same : ((mantissa : Rat) + (digitValue c + partOf rest) / 10) / 10 ^ scale =
          ((10 * mantissa + digitValue c : Nat) + partOf rest) / 10 ^ (scale + 1) := by
        rw [pow_succ]
        push_cast
        field_simp
        ring
      rw [if_pos fits, same]
      exact inRest areDigits.2 fits.2 fits.1 (.inl rfl)
    · have dropped : rest.all isDigitOrSeparator = true :=
        List.all_eq_true.mpr fun other member => by
          rw [isDigitOrSeparator, areDigits.2 other member, Bool.true_or]
      rw [if_neg fits, if_pos dropped]
      exact isReading_roundAt inMantissa inScale (digitValue_lt areDigits.1) (partOf_nonneg rest)
        (partOf_lt_one areDigits.2) (by omega)

/-- **Digits in front of the point** are read as far as they fit. -/
theorem readFrom_whole_eq_none {rest : List Char} (areDigits : ∀ c ∈ digits, isDigit c = true)
    (inMantissa : mantissa < twoTo 96) (exceeds : twoTo 96 ≤ valueFrom mantissa digits) :
    readFrom negative mantissa scale false digitSeen (digits ++ rest) = none := by
  induction digits generalizing mantissa digitSeen with
  | nil => exact absurd inMantissa (Nat.not_lt.mpr exceeds)
  | cons c digits inDigits =>
    rw [List.forall_mem_cons] at areDigits
    rw [List.cons_append, readFrom, if_pos areDigits.1]
    simp only [Bool.false_eq_true, if_false]
    split
    · rename_i fits
      exact inDigits areDigits.2 fits exceeds
    · rfl

variable {numeral : DecimalNumeral}

/-- The distance from zero of the number that a numeral denotes. -/
theorem abs_numeralValue (numeral : DecimalNumeral) :
    |numeral.value| = valueOf numeral.whole + partOf numeral.decimals := by
  have magnitude : (numeral.number : Rat) / 10 ^ numeral.places =
      valueOf numeral.whole + partOf numeral.decimals := by
    rw [DecimalNumeral.number, DecimalNumeral.digits, valueOf_append, DecimalNumeral.places, partOf]
    push_cast
    field_simp
  rw [DecimalNumeral.value, abs_mul, Sign.abs_factor, one_mul, magnitude,
    abs_of_nonneg (add_nonneg (Nat.cast_nonneg _) (partOf_nonneg _))]

/-- **A numeral is read behind its sign** unless it is too far from zero. -/
theorem isReading_unsigned (numeral : DecimalNumeral) :
    IsReading |numeral.value| (readFrom negative 0 0 false false numeral.unsigned) := by
  rw [abs_numeralValue]
  have present : numeral.whole ++ numeral.decimals ≠ [] := numeral.present
  by_cases fits : valueOf numeral.whole < twoTo 96
  · have noPoint : false = true → 0 + numeral.whole.length ≤ 28 := fun point =>
      absurd point Bool.false_ne_true
    have someDigit : (!numeral.whole.isEmpty) = true ∨ numeral.decimals ≠ [] := by
      simpa [Decidable.or_iff_not_imp_left] using present
    have behind : IsReading ((valueOf numeral.whole + partOf numeral.decimals) / 10 ^ 0)
        (readFrom negative (valueOf numeral.whole) 0 true (!numeral.whole.isEmpty)
          numeral.decimals) :=
      isReading_decimals numeral.decimals_areDigits fits (Nat.zero_le 28) someDigit
    rw [pow_zero, div_one] at behind
    rw [DecimalNumeral.unsigned, readFrom_digits numeral.whole_areDigits fits noPoint,
      if_neg Bool.false_ne_true, Bool.false_or]
    cases pointed : numeral.fraction with
    | none =>
      have noDecimals : numeral.decimals = [] := congrArg (·.getD []) pointed
      rw [noDecimals] at behind ⊢
      exact behind
    | some decimals =>
      have same : numeral.decimals = decimals := congrArg (·.getD []) pointed
      rw [same] at behind ⊢
      exact behind
  · have exceeds : twoTo 96 ≤ valueOf numeral.whole := Nat.le_of_not_lt fits
    rw [DecimalNumeral.unsigned,
      readFrom_whole_eq_none numeral.whole_areDigits (twoTo_pos 96) exceeds]
    have inRat : (twoTo 96 : Rat) ≤ valueOf numeral.whole := by exact_mod_cast exceeds
    exact isReading_none (limit_le (le_add_of_le_of_nonneg inRat (partOf_nonneg _)))

variable {text : List Char}

/-- **So is every spelling of a numeral.** -/
theorem isReading_ofPlainText? (spelled : numeral.IsSpelled text) :
    IsReading |numeral.value| (ofPlainText? text) := by
  rw [← ofPlainText?_withoutSeparators spelled.orderly, spelled.form, ofPlainText?_text]
  exact isReading_unsigned numeral

/-- **What is read without an exponent** are the spellings of numerals up to the limit. -/
theorem exists_ofPlainText?_iff :
    (∃ decimal, ofPlainText? text = some decimal) ↔
      ∃ numeral : DecimalNumeral, numeral.IsSpelled text ∧ |numeral.value| < limit := by
  constructor
  · rintro ⟨decimal, read⟩
    obtain ⟨numeral, spelled⟩ := isSpelled_of_ofPlainText? read
    exact ⟨numeral, spelled, (isReading_ofPlainText? spelled).exists_iff.mp ⟨decimal, read⟩⟩
  · rintro ⟨numeral, spelled, near⟩
    exact (isReading_ofPlainText? spelled).exists_iff.mpr near

end Decimal

end QueryAlgebra
