/-
**Texts of floating-point numbers.**

A numeral in scientific notation is a decimal numeral with an optional exponent behind it: a mark,
an optional sign and digits (`ScientificNumeral`). The reader of numerals takes each of them as the
parts that it is made of (`Numeral.ofText?_text`) and nothing else (`Numeral.exists_ofText?_iff`).
The reader for the datatypes takes four words besides (`Floating.exists_ofLexical?_iff`), so it
refuses infinity in small letters, a sign or a point alone and an exponent without digits.
-/
import Mathlib.Data.List.TakeWhile
import QueryAlgebra.Floating.Canonical
import QueryAlgebra.Proofs.Decimal.Numeral

namespace QueryAlgebra

open Text

/-- The exponent of a numeral in scientific notation. -/
structure NumeralExponent where
  mark : Char
  sign : Sign
  digits : List Char
  isMark : mark = 'e' ∨ mark = 'E'
  areDigits : ∀ c ∈ digits, isDigit c = true
  present : digits ≠ []

namespace NumeralExponent

/-- The text of an exponent. -/
def text (exponent : NumeralExponent) : List Char :=
  exponent.mark :: (exponent.sign.text ++ exponent.digits)

/-- The power of ten that an exponent stands for. -/
def power (exponent : NumeralExponent) : Int :=
  if exponent.sign = .minus then -(valueOf exponent.digits : Int) else valueOf exponent.digits

/-- The text of an exponent that may be absent. -/
def textOf (exponent : Option NumeralExponent) : List Char := exponent.elim [] text

/-- The power of ten of an exponent that may be absent. -/
def powerOf (exponent : Option NumeralExponent) : Int := exponent.elim 0 power

/-- An exponent begins with its mark. -/
theorem isMark_of_head? {exponent : Option NumeralExponent} {c : Char}
    (first : c ∈ (textOf exponent).head?) : c = 'e' ∨ c = 'E' := by
  cases exponent with
  | none => cases first
  | some exponent =>
    cases first
    exact exponent.isMark

end NumeralExponent

/-- A numeral in scientific notation. -/
structure ScientificNumeral where
  significand : DecimalNumeral
  exponent : Option NumeralExponent

namespace ScientificNumeral

/-- The text of a numeral. -/
def text (numeral : ScientificNumeral) : List Char :=
  numeral.significand.text ++ NumeralExponent.textOf numeral.exponent

/-- The parts of a numeral. -/
def parts (numeral : ScientificNumeral) : Numeral :=
  ⟨numeral.significand.sign == .minus, numeral.significand.whole, numeral.significand.decimals,
    NumeralExponent.powerOf numeral.exponent⟩

end ScientificNumeral

namespace DecimalNumeral

/-- The text of the digits behind the point, if there is one. -/
def fractionText (fraction : Option (List Char)) : List Char := fraction.elim [] ('.' :: ·)

theorem unsigned_eq (numeral : DecimalNumeral) :
    numeral.unsigned = numeral.whole ++ fractionText numeral.fraction := by
  rw [unsigned]
  cases numeral.fraction <;> rfl

end DecimalNumeral

open DecimalNumeral (fractionText unsigned_eq)

/-- What starts a numeral behind its sign: a digit or a point. -/
def Floating.StartsNumeral (c : Char) : Prop := isDigit c = true ∨ c = '.'

instance (c : Char) : Decidable (Floating.StartsNumeral c) := inferInstanceAs (Decidable (_ ∨ _))

theorem DecimalNumeral.exists_unsigned_eq_cons (numeral : DecimalNumeral) :
    ∃ c rest, numeral.unsigned = c :: rest ∧ Floating.StartsNumeral c := by
  cases shape : numeral.unsigned with
  | cons c rest => exact ⟨c, rest, rfl, mem_unsigned (shape ▸ List.mem_cons_self)⟩
  | nil =>
    rw [unsigned_eq, List.append_eq_nil_iff] at shape
    have present := numeral.present
    cases fraction : numeral.fraction with
    | none => simp [shape.1, fraction] at present
    | some decimals => simp [fractionText, fraction] at shape

namespace Numeral

variable {text digits rest : List Char} {fraction : Option (List Char)} {numeral : Numeral}

/-! ### Signs -/

/-- A text is its sign and the rest. -/
theorem exists_splitSign (text : List Char) :
    ∃ sign : Sign, sign.text ++ (splitSign text).2 = text := by
  unfold splitSign
  split
  · exact ⟨.minus, rfl⟩
  · exact ⟨.plus, rfl⟩
  · exact ⟨.implicit, rfl⟩

/-- A sign is split off a text that starts with no other. -/
theorem splitSign_append (sign : Sign) (noSign : ∀ c ∈ text.head?, c ≠ '+' ∧ c ≠ '-') :
    splitSign (sign.text ++ text) = (sign == .minus, text) := by
  cases sign with
  | plus => rfl
  | minus => rfl
  | implicit =>
    show splitSign text = (false, text)
    unfold splitSign
    split
    · exact absurd rfl (noSign _ rfl).2
    · exact absurd rfl (noSign _ rfl).1
    · rfl

theorem not_sign_of_isDigit {c : Char} (digit : isDigit c = true) : c ≠ '+' ∧ c ≠ '-' := by
  constructor <;>
    · rintro rfl
      cases digit

/-- The sign of a numeral in scientific notation is split off. -/
theorem splitSign_text (numeral : ScientificNumeral) :
    splitSign numeral.text = (numeral.significand.sign == .minus,
      numeral.significand.unsigned ++ NumeralExponent.textOf numeral.exponent) := by
  obtain ⟨c, rest, unsigned, starts⟩ := numeral.significand.exists_unsigned_eq_cons
  rw [ScientificNumeral.text, DecimalNumeral.text, List.append_assoc]
  refine splitSign_append _ ?_
  rw [unsigned]
  rintro _ ⟨⟩
  rcases starts with digit | rfl
  · exact not_sign_of_isDigit digit
  · decide

/-! ### Digits -/

/-- A text is the digits at its front and the rest. -/
theorem splitDigits_spec (text : List Char) :
    (splitDigits text).1 ++ (splitDigits text).2 = text ∧
      ∀ c ∈ (splitDigits text).1, isDigit c = true :=
  ⟨List.takeWhile_append_dropWhile, fun _ member => List.mem_takeWhile_imp member⟩

/-- Digits are split off a text that starts with no other. -/
theorem splitDigits_append (areDigits : ∀ c ∈ digits, isDigit c = true)
    (noDigit : ∀ c ∈ rest.head?, isDigit c = false) :
    splitDigits (digits ++ rest) = (digits, rest) := by
  have stops : rest.takeWhile isDigit = [] ∧ rest.dropWhile isDigit = rest := by
    cases rest with
    | nil => exact ⟨rfl, rfl⟩
    | cons c rest => simp [noDigit c rfl]
  rw [splitDigits, List.takeWhile_append_of_pos areDigits, List.dropWhile_append_of_pos areDigits,
    stops.1, stops.2, List.append_nil]

/-! ### Fractions -/

/-- The digits behind an optional point and the rest. -/
def splitFraction : List Char → List Char × List Char
  | '.' :: rest => splitDigits rest
  | rest => ([], rest)

/-- A text is the fraction at its front and the rest. -/
theorem exists_splitFraction (text : List Char) :
    ∃ fraction : Option (List Char), fraction.getD [] = (splitFraction text).1 ∧
      (∀ c ∈ (splitFraction text).1, isDigit c = true) ∧
      fractionText fraction ++ (splitFraction text).2 = text := by
  unfold splitFraction
  split
  · rename_i behind
    obtain ⟨parts, areDigits⟩ := splitDigits_spec behind
    exact ⟨some (splitDigits behind).1, rfl, areDigits, congrArg ('.' :: ·) parts⟩
  · exact ⟨none, rfl, List.forall_mem_nil _, rfl⟩

/-- A fraction is split off a text that goes on with neither a digit nor a point. -/
theorem splitFraction_append (areDigits : ∀ c ∈ fraction.getD [], isDigit c = true)
    (stops : ∀ c ∈ rest.head?, isDigit c = false ∧ c ≠ '.') :
    splitFraction (fractionText fraction ++ rest) = (fraction.getD [], rest) := by
  cases fraction with
  | some decimals => exact splitDigits_append areDigits fun c first => (stops c first).1
  | none =>
    show splitFraction rest = ([], rest)
    unfold splitFraction
    split
    · exact absurd rfl (stops _ rfl).2
    · rfl

/-- A fraction starts with no digit, nor does what may follow it. -/
theorem not_isDigit_of_head? (stops : ∀ c ∈ rest.head?, isDigit c = false ∧ c ≠ '.') :
    ∀ c ∈ (fractionText fraction ++ rest).head?, isDigit c = false := by
  cases fraction with
  | none => exact fun c first => (stops c first).1
  | some decimals =>
    rintro _ ⟨⟩
    rfl

/-! ### Exponents -/

/-- An exponent starts with neither a digit nor a point. -/
theorem head?_textOf {exponent : Option NumeralExponent} :
    ∀ c ∈ (NumeralExponent.textOf exponent).head?, isDigit c = false ∧ c ≠ '.' := by
  intro c first
  rcases NumeralExponent.isMark_of_head? first with rfl | rfl <;> decide

/-- **An exponent is read as the power of ten that it stands for.** -/
theorem readExponent?_textOf (exponent : Option NumeralExponent) :
    readExponent? (NumeralExponent.textOf exponent) = some (NumeralExponent.powerOf exponent) := by
  cases exponent with
  | none => rfl
  | some exponent =>
    have isMark : (exponent.mark = 'e' || exponent.mark = 'E') = true := by
      simpa using exponent.isMark
    have fine : (exponent.digits.isEmpty || !exponent.digits.all isDigit) = false := by
      simpa using ⟨exponent.present, exponent.areDigits⟩
    have noSign : ∀ c ∈ exponent.digits.head?, c ≠ '+' ∧ c ≠ '-' := fun c first =>
      not_sign_of_isDigit (exponent.areDigits c (List.mem_of_mem_head? first))
    show readExponent? exponent.text = some exponent.power
    rw [NumeralExponent.text, readExponent?, if_pos isMark, splitSign_append _ noSign]
    simp only [fine, Bool.false_eq_true, if_false, NumeralExponent.power, beq_iff_eq]
    split <;> rfl

/-- **Nothing else is read as an exponent.** -/
theorem exists_textOf_of_readExponent? {power : Int} (read : readExponent? text = some power) :
    ∃ exponent : Option NumeralExponent, NumeralExponent.textOf exponent = text := by
  cases text with
  | nil => exact ⟨none, rfl⟩
  | cons mark rest =>
    obtain ⟨sign, parts⟩ := exists_splitSign rest
    rw [readExponent?] at read
    split_ifs at read with isMark
    simp only at read
    split_ifs at read with malformed
    all_goals
      rw [Bool.or_eq_true, not_or, Bool.not_eq_true', Bool.not_eq_false, List.isEmpty_iff,
        List.all_eq_true] at malformed
      exact ⟨some ⟨mark, sign, (splitSign rest).2, by simpa using isMark, malformed.2,
        malformed.1⟩, congrArg (mark :: ·) parts⟩

/-! ### Numerals -/

/-- The reader takes a sign, digits, a fraction and an exponent one after the other. -/
theorem ofText?_eq (text : List Char) :
    let (negative, unsigned) := splitSign text
    let (whole, behind) := splitDigits unsigned
    let (fraction, exponent) := splitFraction behind
    ofText? text =
      if whole.isEmpty && fraction.isEmpty then none
      else (readExponent? exponent).map fun power => ⟨negative, whole, fraction, power⟩ :=
  rfl

/-- **A numeral in scientific notation is read as its parts.** -/
theorem ofText?_text (numeral : ScientificNumeral) : ofText? numeral.text = some numeral.parts := by
  obtain ⟨significand, exponent⟩ := numeral
  let behind := fractionText significand.fraction ++ NumeralExponent.textOf exponent
  have sign : splitSign (ScientificNumeral.text ⟨significand, exponent⟩) =
      (significand.sign == .minus, significand.whole ++ behind) := by
    rw [splitSign_text, unsigned_eq, List.append_assoc]
  have whole : splitDigits (significand.whole ++ behind) = (significand.whole, behind) :=
    splitDigits_append significand.whole_areDigits (not_isDigit_of_head? head?_textOf)
  have fraction : splitFraction behind =
      (significand.decimals, NumeralExponent.textOf exponent) :=
    splitFraction_append significand.decimals_areDigits head?_textOf
  have someDigit : (significand.whole.isEmpty && significand.decimals.isEmpty) = false := by
    simpa [Decidable.not_and_iff_or_not, DecimalNumeral.decimals] using significand.present
  have read := ofText?_eq (ScientificNumeral.text ⟨significand, exponent⟩)
  simp only [sign, whole, fraction, someDigit, readExponent?_textOf] at read
  exact read

/-- **Nothing else is read as a numeral.** -/
theorem exists_text_of_ofText? (read : ofText? text = some numeral) :
    ∃ scientific : ScientificNumeral, scientific.text = text := by
  obtain ⟨sign, afterSign⟩ := exists_splitSign text
  obtain ⟨afterWhole, wholeDigits⟩ := splitDigits_spec (splitSign text).2
  obtain ⟨fraction, isFraction, fractionDigits, afterFraction⟩ :=
    exists_splitFraction (splitDigits (splitSign text).2).2
  have parts := ofText?_eq text
  simp only [read] at parts
  split_ifs at parts with noDigit
  obtain ⟨power, readPower, _⟩ := Option.map_eq_some_iff.mp parts.symm
  obtain ⟨exponent, exponentText⟩ := exists_textOf_of_readExponent? readPower
  let significand : DecimalNumeral :=
    ⟨sign, (splitDigits (splitSign text).2).1, fraction,
      by
        rw [isFraction]
        exact List.forall_mem_append.mpr ⟨wholeDigits, fractionDigits⟩,
      by
        rw [isFraction]
        simpa [Decidable.not_and_iff_or_not] using noDigit⟩
  refine ⟨⟨significand, exponent⟩, ?_⟩
  rw [ScientificNumeral.text, DecimalNumeral.text, unsigned_eq, exponentText, List.append_assoc,
    List.append_assoc, afterFraction, afterWhole, afterSign]

theorem exists_ofText?_iff :
    (∃ numeral, ofText? text = some numeral) ↔
      ∃ scientific : ScientificNumeral, scientific.text = text := by
  constructor
  · rintro ⟨numeral, read⟩
    exact exists_text_of_ofText? read
  · rintro ⟨scientific, rfl⟩
    exact ⟨scientific.parts, ofText?_text scientific⟩

end Numeral

namespace Floating

/-! ### The words of the datatypes -/

/-- The words for infinity and for the missing number. -/
def words : List (List Char) :=
  [['I', 'N', 'F'], ['+', 'I', 'N', 'F'], ['-', 'I', 'N', 'F'], ['N', 'a', 'N']]

/-- **What is read by the words of the datatypes** is one of them or a numeral in scientific
notation. -/
theorem exists_ofLexical?_iff {text : List Char} :
    (∃ number, ofLexical? text = some number) ↔
      text ∈ words ∨ ∃ numeral : ScientificNumeral, numeral.text = text := by
  rw [ofLexical?, ← Numeral.exists_ofText?_iff]
  split_ifs with positive negative missing
  · exact iff_of_true ⟨_, rfl⟩ (.inl (by rcases positive with rfl | rfl <;> decide))
  · exact iff_of_true ⟨_, rfl⟩ (.inl (by rw [negative]; decide))
  · exact iff_of_true ⟨_, rfl⟩ (.inl (by rw [missing]; decide))
  · have noWord : text ∉ words := by
      simp only [words, List.mem_cons, List.not_mem_nil, or_false]
      tauto
    simp only [noWord, false_or, Option.map_eq_some_iff]
    constructor
    · rintro ⟨_, numeral, read, _⟩
      exact ⟨numeral, read⟩
    · rintro ⟨numeral, read⟩
      exact ⟨_, numeral, read, rfl⟩

end Floating

end QueryAlgebra
