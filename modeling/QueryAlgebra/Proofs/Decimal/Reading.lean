/-
**Reading decimal numerals.**

The reader takes the digits of a numeral one by one and keeps the number that they make so far, which
never exceeds the number of all of them (`readFrom_digits`). So a numeral whose digits fit into the
mantissa and its places into the scale is read without rounding, as the decimal of the same number
(`ofText?_text`, `value_toDecimal`). A decimal that was written is read back (`ofText?_toText`), a
canonical numeral is written again as it was read (`canonical_toDecimal`), and decimals are equal as
numbers exactly when their canonical texts are equal (`canonical_eq_iff`).
-/
import Mathlib.Data.List.TakeWhile
import QueryAlgebra.Decimal.Reader
import QueryAlgebra.Proofs.Decimal.Normal

namespace QueryAlgebra

open Text

/-- Whether the digits of a numeral fit into a decimal. -/
structure DecimalNumeral.Fits (numeral : DecimalNumeral) : Prop where
  number_lt : numeral.number < twoTo 96
  places_le : numeral.places ≤ 28

namespace Decimal

variable {negative pointSeen digitSeen : Bool} {mantissa scale : Nat} {digits rest : List Char}

theorem le_valueFrom (start : Nat) (digits : List Char) : start ≤ valueFrom start digits := by
  induction digits generalizing start with
  | nil => exact Nat.le_refl start
  | cons c rest inRest =>
    have := inRest (10 * start + digitValue c)
    show start ≤ valueFrom (10 * start + digitValue c) rest
    omega

/-! ### Digits and points -/

/-- **Digits that fit are all taken**, whether a point stands before them or not. -/
theorem readFrom_digits (areDigits : ∀ c ∈ digits, isDigit c = true)
    (fits : valueFrom mantissa digits < twoTo 96)
    (fitsScale : pointSeen = true → scale + digits.length ≤ 28) :
    readFrom negative mantissa scale pointSeen digitSeen (digits ++ rest) =
      readFrom negative (valueFrom mantissa digits)
        (if pointSeen then scale + digits.length else scale) pointSeen
        (digitSeen || !digits.isEmpty) rest := by
  induction digits generalizing mantissa scale digitSeen with
  | nil => simp [valueFrom]
  | cons c digits inDigits =>
    rw [List.forall_mem_cons] at areDigits
    have fitsNext : 10 * mantissa + digitValue c < twoTo 96 :=
      Nat.lt_of_le_of_lt (le_valueFrom _ digits) fits
    rw [List.cons_append, readFrom, if_pos areDigits.1]
    cases pointSeen with
    | false =>
      simp only [Bool.false_eq_true, if_false, if_pos fitsNext]
      rw [inDigits areDigits.2 fits fun seen => absurd seen Bool.false_ne_true]
      simp [valueFrom]
    | true =>
      have fitsPlace : scale + (digits.length + 1) ≤ 28 := fitsScale rfl
      simp only [if_true, if_pos (And.intro (show scale < 28 by omega) fitsNext)]
      rw [inDigits areDigits.2 fits fun _ => by omega]
      simp [valueFrom, Nat.add_assoc, Nat.add_comm 1]

/-- **So are those behind the first point**, of which there may be none after other digits. -/
theorem readFrom_fraction (areDigits : ∀ c ∈ digits, isDigit c = true)
    (fits : valueFrom mantissa digits < twoTo 96) (fitsScale : digits.length ≤ 28) :
    readFrom negative mantissa 0 false digitSeen ('.' :: digits) =
      if digitSeen || !digits.isEmpty then
        ofParts? negative (valueFrom mantissa digits) digits.length
      else none := by
  have passPoint : readFrom negative mantissa 0 false digitSeen ('.' :: digits) =
      readFrom negative mantissa 0 true digitSeen digits := by
    rw [readFrom]
    rfl
  have allTaken : readFrom negative mantissa 0 true digitSeen (digits ++ []) = _ :=
    readFrom_digits areDigits fits fun _ => (Nat.zero_add _).trans_le fitsScale
  rw [List.append_nil, if_pos rfl, Nat.zero_add] at allTaken
  rw [passPoint, allTaken]
  rfl

/-! ### Numerals -/

variable {numeral : DecimalNumeral} {decimal : Decimal}

/-- **After its sign a numeral that fits is taken as a whole.** -/
theorem readFrom_unsigned (fits : numeral.Fits) :
    readFrom negative 0 0 false false numeral.unsigned =
      ofParts? negative numeral.number numeral.places := by
  have number : numeral.number = valueFrom (valueFrom 0 numeral.whole) numeral.decimals :=
    valueFrom_append 0 numeral.whole numeral.decimals
  have fitsAll := number ▸ fits.number_lt
  have fitsWhole := Nat.lt_of_le_of_lt (le_valueFrom _ numeral.decimals) fitsAll
  have noPoint : false = true → 0 + numeral.whole.length ≤ 28 := nofun
  have present : numeral.whole ++ numeral.decimals ≠ [] := numeral.present
  have someDigit : (!numeral.whole.isEmpty || !numeral.decimals.isEmpty) = true := by
    simpa [Decidable.or_iff_not_imp_left] using present
  rw [number, DecimalNumeral.unsigned, readFrom_digits numeral.whole_areDigits fitsWhole noPoint,
    if_neg Bool.false_ne_true, Bool.false_or]
  cases pointed : numeral.fraction with
  | none =>
    have noDecimals : numeral.decimals = [] := congrArg (·.getD []) pointed
    rw [noDecimals, List.isEmpty_nil, Bool.not_true, Bool.or_false] at someDigit
    rw [DecimalNumeral.places, noDecimals]
    exact if_pos someDigit
  | some decimals =>
    have same : numeral.decimals = decimals := congrArg (·.getD []) pointed
    have areDigits := numeral.decimals_areDigits
    have fitsPlaces := fits.places_le
    rw [DecimalNumeral.places] at fitsPlaces ⊢
    rw [same] at areDigits fitsAll fitsPlaces someDigit ⊢
    exact (readFrom_fraction areDigits fitsAll fitsPlaces).trans (if_pos someDigit)

end Decimal

/-- The decimal of a numeral that fits. -/
def DecimalNumeral.toDecimal (numeral : DecimalNumeral) (fits : numeral.Fits) : Decimal :=
  ⟨numeral.sign == .minus && numeral.number != 0, numeral.number, numeral.places,
    fits.number_lt, fits.places_le⟩

namespace Decimal

variable {numeral : DecimalNumeral}

theorem ofParts?_of_fits (fits : numeral.Fits) :
    ofParts? (numeral.sign == .minus) numeral.number numeral.places =
      some (numeral.toDecimal fits) :=
  dif_pos ⟨fits.number_lt, fits.places_le⟩

/-- The sign of a numeral is taken first. -/
theorem ofPlainText?_text (numeral : DecimalNumeral) :
    ofPlainText? numeral.text =
      readFrom (numeral.sign == .minus) 0 0 false false numeral.unsigned := by
  rw [DecimalNumeral.text]
  cases numeral.sign with
  | minus => rfl
  | plus => rfl
  | implicit =>
    show ofPlainText? numeral.unsigned = _
    unfold ofPlainText?
    split
    · rename_i minus
      exact absurd minus (numeral.unsigned_ne_cons rfl (by decide) _)
    · rename_i plus
      exact absurd plus (numeral.unsigned_ne_cons rfl (by decide) _)
    · rfl

/-- **A numeral that fits is read without rounding.** -/
theorem ofText?_text (fits : numeral.Fits) :
    ofText? numeral.text = some (numeral.toDecimal fits) := by
  have plain : ofPlainText? numeral.text = some (numeral.toDecimal fits) := by
    rw [ofPlainText?_text, readFrom_unsigned fits, ofParts?_of_fits fits]
  rw [ofText?, plain]

/-- **It is read as the number that it denotes.** -/
theorem value_toDecimal (fits : numeral.Fits) : (numeral.toDecimal fits).value = numeral.value := by
  have same : (numeral.toDecimal fits).value = (numeral.toDecimal fits).sign.factor *
      (numeral.number / 10 ^ numeral.places) := rfl
  rw [same, DecimalNumeral.value]
  by_cases zero : numeral.number = 0
  · rw [zero, Nat.cast_zero, zero_div, mul_zero, mul_zero]
  · have factor : (numeral.toDecimal fits).sign.factor = numeral.sign.factor := by
      cases sign : numeral.sign <;>
        simp [Decimal.sign, DecimalNumeral.toDecimal, sign, zero, Sign.factor]
    rw [factor]

/-- The text of a decimal is a numeral that fits. -/
theorem fits_numeral (decimal : Decimal) : decimal.numeral.Fits where
  number_lt := decimal.number_numeral ▸ decimal.mantissa_lt
  places_le := decimal.places_numeral ▸ decimal.scale_le

/-- **A normal decimal is read back.** -/
theorem IsNormal.ofText?_toText {decimal : Decimal} (normal : decimal.IsNormal) :
    ofText? decimal.toText = some decimal := by
  have sign : (decimal.sign == .minus && decimal.mantissa != 0) = decimal.negative := by
    rw [Decimal.sign]
    cases negative : decimal.negative with
    | false => rfl
    | true => simpa using normal.noNegativeZero negative
  rw [← text_numeral, ofText?_text decimal.fits_numeral]
  simp only [DecimalNumeral.toDecimal, number_numeral, places_numeral]
  exact congrArg some (congrArg (Decimal.mk · _ _ _ _) sign)

/-! ### The canonical text -/

theorem fits_canonicalNumeral (decimal : Decimal) : decimal.canonicalNumeral.Fits :=
  fits_numeral decimal.normalize

/-- **A canonical numeral is read and written again as it was.** -/
theorem canonical_toDecimal (fits : numeral.Fits) (canonical : numeral.IsCanonical) :
    (numeral.toDecimal fits).canonical = String.ofList numeral.text := by
  have same : (numeral.toDecimal fits).canonicalNumeral = numeral :=
    (isCanonical_canonicalNumeral _).unique canonical
      ((value_canonicalNumeral _).trans (value_toDecimal fits))
  rw [canonical_eq, same]

/-- **Decimals have the same canonical text exactly when they are equal as numbers.** -/
theorem canonical_eq_iff {decimal other : Decimal} :
    decimal.canonical = other.canonical ↔ decimal.value = other.value := by
  rw [canonical_eq, canonical_eq, String.ofList_inj]
  constructor
  · intro same
    have read := ofText?_text decimal.fits_canonicalNumeral
    rw [same, ofText?_text other.fits_canonicalNumeral, Option.some.injEq] at read
    rw [← value_canonicalNumeral, ← value_toDecimal decimal.fits_canonicalNumeral, ← read,
      value_toDecimal, value_canonicalNumeral]
  · intro same
    rw [(isCanonical_canonicalNumeral decimal).unique (isCanonical_canonicalNumeral other)
      ((value_canonicalNumeral decimal).trans (same.trans (value_canonicalNumeral other).symm))]

/-! ### Texts without a point -/

variable {text : List Char} {decimal : Decimal}

theorem scale_of_ofParts? {negative : Bool} {mantissa scale : Nat}
    (made : ofParts? negative mantissa scale = some decimal) : decimal.scale = scale := by
  rw [ofParts?] at made
  split at made <;> cases made
  rfl

theorem scale_of_readFrom {negative digitSeen : Bool} {mantissa scale : Nat} (noPoint : '.' ∉ text)
    (read : readFrom negative mantissa scale false digitSeen text = some decimal) :
    decimal.scale = scale := by
  induction text generalizing mantissa digitSeen with
  | nil =>
    rw [readFrom] at read
    split at read
    · exact scale_of_ofParts? read
    · cases read
  | cons c rest inRest =>
    rw [List.mem_cons, not_or] at noPoint
    have first : (c = '.' : Bool) = false := by simpa using Ne.symm noPoint.1
    rw [readFrom] at read
    simp only [Bool.false_eq_true, if_false, first, Bool.false_and] at read
    split_ifs at read
    all_goals exact inRest noPoint.2 read

theorem isExponentMark_eq_false {c : Char} (plain : isDigit c = true ∨ c ∈ ['.', '+', '-']) :
    isExponentMark c = false := by
  rw [isExponentMark, Bool.or_eq_false_iff, beq_eq_false_iff_ne, beq_eq_false_iff_ne]
  constructor <;> rintro rfl <;> revert plain <;> decide

/-- A text without a mark for it has no exponent. -/
theorem ofScientificText?_eq_none (noMark : ∀ c ∈ text, isExponentMark c = false) :
    ofScientificText? text = none := by
  have nothing : text.dropWhile (!isExponentMark ·) = [] := by
    rw [List.dropWhile_eq_nil_iff]
    exact fun c member => by rw [noMark c member, Bool.not_false]
  rw [ofScientificText?, nothing]

/-- **A text without a point and without an exponent is read as a whole number.** -/
theorem scale_of_ofText? (noPoint : '.' ∉ text) (noMark : ∀ c ∈ text, isExponentMark c = false)
    (read : ofText? text = some decimal) : decimal.scale = 0 := by
  rw [ofText?, ofScientificText?_eq_none noMark] at read
  split at read
  · rename_i plain
    cases read
    unfold ofPlainText? at plain
    split at plain
    · exact scale_of_readFrom (fun member => noPoint (.tail _ member)) plain
    · exact scale_of_readFrom (fun member => noPoint (.tail _ member)) plain
    · exact scale_of_readFrom noPoint plain
  · cases read

end Decimal

end QueryAlgebra
