/-
**Lexical forms that casts accept.**

To a decimal a text is cast when it spells a numeral, separators behind the first digit included
(`standard_decimal_of_text`). To a whole number it is cast when it is a numeral without a point,
whereas a literal of an integer datatype is cast from whatever the reader of decimals takes, and
cut. So the way through the text is the narrower of the two, and where it leads somewhere the direct
one leads to the same place (`standard_integer_via_text`).
-/
import QueryAlgebra.Proofs.Decimal.Whole
import QueryAlgebra.Proofs.Function.CanonicalCasts

namespace QueryAlgebra

open Text

namespace Cast

variable {literal : Literal} {target datatype : Iri} {text : List Char} {numeral : DecimalNumeral}

/-! ### Readings -/

/-- What is read or malformed succeeds when it is read. -/
theorem map_wellFormed_eq_ok {α : Type} {read : Option α} {write : α → Term} {result : Term} :
    write <$> wellFormed literal target read = .ok result ↔
      ∃ value, read = some value ∧ write value = result := by
  cases read with
  | none => exact ⟨nofun, nofun⟩
  | some value =>
    constructor
    · intro same
      exact ⟨value, rfl, Except.ok.inj same⟩
    · rintro ⟨_, ⟨⟩, rfl⟩
      rfl

theorem exists_map_wellFormed_eq_ok {α : Type} {read : Option α} {write : α → Term} :
    (∃ result, write <$> wellFormed literal target read = .ok result) ↔
      ∃ value, read = some value := by
  constructor
  · rintro ⟨result, succeeds⟩
    obtain ⟨value, found, _⟩ := map_wellFormed_eq_ok.mp succeeds
    exact ⟨value, found⟩
  · rintro ⟨value, found⟩
    exact ⟨write value, map_wellFormed_eq_ok.mpr ⟨value, found, rfl⟩⟩

theorem map_wellFormed_eq_error {α : Type} {read : Option α} {write : α → Term} {error : EvalError}
    (fails : write <$> wellFormed literal target read = .error error) :
    error = malformed literal target := by
  cases read with
  | none => exact (Except.error.inj fails).symm
  | some value => cases fails

/-! ### Texts as decimals -/

/-- **To a decimal a text is cast by the reader without exponents.** -/
theorem decimalOfText?_eq (text : List Char) : decimalOfText? text = Decimal.ofPlainText? text := by
  rw [decimalOfText?]
  by_cases marked : text.any Decimal.isExponentMark = true
  · obtain ⟨mark, member, isMark⟩ := List.any_eq_true.mp marked
    have unread : Decimal.ofPlainText? text = none := by
      refine Option.eq_none_iff_forall_ne_some.mpr fun decimal read => ?_
      obtain ⟨numeral, spelled⟩ := Decimal.isSpelled_of_ofPlainText? read
      cases (Decimal.isExponentMark_of_isSpelled spelled mark member).symm.trans isMark
    rw [if_pos marked, unread]
  · have noMark : ∀ c ∈ text, Decimal.isExponentMark c = false := fun c member =>
      Bool.eq_false_iff.mpr fun isMark => marked (List.any_eq_true.mpr ⟨c, member, isMark⟩)
    rw [if_neg marked, Decimal.ofText?, Decimal.ofScientificText?_eq_none noMark]
    cases Decimal.ofPlainText? text <;> rfl

theorem toXsdDecimal_simple (lexical : String) :
    toXsdDecimal (.literal (.simple lexical)) =
      (fun decimal => Term.literal (.ofDecimal decimal)) <$>
        wellFormed (.simple lexical) Xsd.decimal (Decimal.ofPlainText? (trim lexical.toList)) := by
  rw [← decimalOfText?_eq]
  rfl

/-- **The spelling of a numeral that fits is cast to the decimal of the numeral.** -/
theorem toXsdDecimal_of_isSpelled {lexical : String}
    (spelled : numeral.IsSpelled (trim lexical.toList)) (fits : numeral.Fits) :
    toXsdDecimal (.literal (.simple lexical)) =
      .ok (.literal (.ofDecimal (numeral.toDecimal fits))) := by
  rw [toXsdDecimal_simple, Decimal.ofPlainText?_of_fits spelled fits]
  rfl

/-! ### Whole numbers -/

theorem toXsdInteger_typed (isInteger : datatype ∈ Xsd.integerTypes) (lexical : String) :
    toXsdInteger (.literal (.typed lexical datatype)) =
      (fun decimal => Term.literal (.typed decimal.truncate.canonical Xsd.integer)) <$>
        wellFormed (.typed lexical datatype) Xsd.integer
          (Decimal.ofText? (trim lexical.toList)) := by
  have space : Xsd.valueSpace (Literal.typed lexical datatype).effectiveDatatype = .integer :=
    Xsd.valueSpace_of_integer datatype isInteger
  have trimmed : (Literal.typed lexical datatype).trimmed = trim lexical.toList := rfl
  have source : castable Xsd.integer (.literal (.typed lexical datatype)) =
      .ok (.typed lexical datatype) := rfl
  rw [toXsdInteger, source]
  simp only [bind, Except.bind, valueOf, space, numberOf?, trimmed]
  cases Decimal.ofText? (trim lexical.toList) <;> rfl

/-- As a text of its own. -/
theorem toXsdInteger_text (lexical : String) :
    toXsdInteger (.literal (.typed lexical Xsd.string)) =
      (fun decimal => Term.literal (.typed decimal.canonical Xsd.integer)) <$>
        wellFormed (.typed lexical Xsd.string) Xsd.integer (wholeOfText? (trim lexical.toList)) :=
  rfl

/-- What is read as a whole number is a numeral without a point, and not cut. -/
theorem wholeOfText?_eq_some {decimal : Decimal} :
    wholeOfText? text = some decimal ↔
      (∃ numeral : DecimalNumeral, numeral.IsWhole ∧ numeral.text = text) ∧
        ∃ read, Decimal.ofText? text = some read ∧ read.truncate = decimal := by
  constructor
  · intro whole
    have uncut := Decimal.truncate_eq_self (scale_of_wholeOfText? whole)
    rw [wholeOfText?] at whole
    split_ifs at whole with accepted
    exact ⟨Literal.isIntegerNumeral_iff.mp accepted, decimal, whole, uncut⟩
  · rintro ⟨accepted, read, found, rfl⟩
    have whole : wholeOfText? text = some read := by
      rw [wholeOfText?, if_pos (Literal.isIntegerNumeral_iff.mpr accepted), found]
    rw [whole, Decimal.truncate_eq_self (scale_of_wholeOfText? whole)]

/-- **A whole numeral within 96 bits is cast to the canonical numeral of its number.** -/
theorem toXsdInteger_of_isWhole {lexical : String} (isInteger : datatype ∈ Xsd.integerTypes)
    (whole : numeral.IsWhole) (written : numeral.text = trim lexical.toList)
    (bounded : numeral.number < twoTo 96) :
    ∃ result : DecimalNumeral, result.IsCanonical ∧ result.IsWhole ∧
      result.value = numeral.value ∧
      toXsdInteger (.literal (.typed lexical datatype)) =
        .ok (.literal (.typed (String.ofList result.text) Xsd.integer)) := by
  have fits := whole.fits bounded
  let decimal := numeral.toDecimal fits
  have uncut : decimal.truncate = decimal := Decimal.truncate_eq_self whole.places_eq
  have found : Decimal.ofText? (trim lexical.toList) = some decimal := by
    rw [← written, Decimal.ofText?_text fits]
  refine ⟨decimal.canonicalNumeral, decimal.isCanonical_canonicalNumeral,
    Decimal.fraction_canonicalNumeral whole.places_eq,
    decimal.value_canonicalNumeral.trans (Decimal.value_toDecimal fits), ?_⟩
  rw [toXsdInteger_typed isInteger, map_wellFormed_eq_ok]
  refine ⟨decimal, found, ?_⟩
  rw [uncut, decimal.canonical_eq]

/-- **The way through the text** leads where the direct one does, if it leads anywhere. -/
theorem toXsdInteger_text_eq_ok {lexical : String} {result : Term}
    (isInteger : datatype ∈ Xsd.integerTypes) :
    toXsdInteger (.literal (.typed lexical Xsd.string)) = .ok result ↔
      (∃ numeral : DecimalNumeral, numeral.IsWhole ∧ numeral.text = trim lexical.toList) ∧
        toXsdInteger (.literal (.typed lexical datatype)) = .ok result := by
  rw [toXsdInteger_text, toXsdInteger_typed isInteger, map_wellFormed_eq_ok, map_wellFormed_eq_ok]
  constructor
  · rintro ⟨_, whole, rfl⟩
    obtain ⟨accepted, read, found, rfl⟩ := wholeOfText?_eq_some.mp whole
    exact ⟨accepted, read, found, rfl⟩
  · rintro ⟨accepted, read, found, rfl⟩
    exact ⟨read.truncate, wholeOfText?_eq_some.mpr ⟨accepted, read, found, rfl⟩, rfl⟩

end Cast

/-! ### The casts of the standard functions -/

/-- **A text casts to a decimal** when it spells a numeral that is not too far from zero. -/
theorem Registry.standard_decimal_of_text (lexical : String) :
    let text := trim lexical.toList
    let cast := Registry.standard.apply (.iri Xsd.decimal) [.literal (.simple lexical)]
    ((∃ result, cast = .ok result) ↔
      ∃ numeral : DecimalNumeral, numeral.IsSpelled text ∧ |numeral.value| < Decimal.limit) ∧
    (∀ numeral : DecimalNumeral, numeral.IsSpelled text → numeral.Fits →
      ∃ result : DecimalNumeral, result.IsCanonical ∧ result.value = numeral.value ∧
        cast = .ok (.literal (.typed (String.ofList result.text) Xsd.decimal))) ∧
    ∀ error, cast = .error error →
      error = .castFailed (.datatype Xsd.string) Xsd.decimal (.invalidLexical lexical) := by
  intro text cast
  have castText : cast = Cast.toXsdDecimal (.literal (.simple lexical)) :=
    (standard_apply_cast _).2.2.2
  rw [castText]
  refine ⟨?_, fun numeral spelled fits => ?_, fun error fails => ?_⟩
  · rw [Cast.toXsdDecimal_simple, Cast.exists_map_wellFormed_eq_ok, Decimal.exists_ofPlainText?_iff]
  · let decimal := numeral.toDecimal fits
    refine ⟨decimal.canonicalNumeral, decimal.isCanonical_canonicalNumeral,
      decimal.value_canonicalNumeral.trans (Decimal.value_toDecimal fits), ?_⟩
    rw [Cast.toXsdDecimal_of_isSpelled spelled fits, Literal.ofDecimal, decimal.canonical_eq]
  · rw [Cast.toXsdDecimal_simple] at fails
    exact Cast.map_wellFormed_eq_error fails

/-- A sign, a separator and blanks. -/
theorem Registry.standard_decimal_of_text_grouped :
    let numeral : DecimalNumeral := ⟨.plus, ['1', '0', '0', '0'], some ['5', '0'],
      List.all_eq_true.mp rfl, List.cons_ne_nil _ _⟩
    numeral.IsSpelled (trim " +1_000.50 ".toList) ∧ numeral.Fits ∧
    ∃ result : DecimalNumeral, result.IsCanonical ∧ result.value = numeral.value ∧
      Registry.standard.apply (.iri Xsd.decimal) [.literal (.simple " +1_000.50 ")] =
        .ok (.literal (.typed (String.ofList result.text) Xsd.decimal)) := by
  intro numeral
  have spelled : numeral.IsSpelled (trim " +1_000.50 ".toList) := ⟨rfl, by decide⟩
  have fits : numeral.Fits := ⟨by decide, by decide⟩
  exact ⟨spelled, fits, (standard_decimal_of_text " +1_000.50 ").2.1 numeral spelled fits⟩

/-- **Digits in groups are no numeral**, and they are cast to a decimal all the same. -/
theorem Registry.grouped_text_cast :
    Registry.standard.apply (.iri Xsd.decimal) [.literal (.simple "1_000")] =
      .ok (.literal (.typed "1000" Xsd.decimal)) ∧
    ¬∃ numeral : DecimalNumeral, numeral.text = trim "1_000".toList := by
  let numeral : DecimalNumeral :=
    ⟨.implicit, ['1', '0', '0', '0'], none, List.all_eq_true.mp rfl, List.cons_ne_nil _ _⟩
  have spelled : numeral.IsSpelled (trim "1_000".toList) := ⟨rfl, by decide⟩
  have fits : numeral.Fits := ⟨by decide, by decide⟩
  have canonical : numeral.IsCanonical :=
    ⟨by decide, by decide, by decide, by decide, by decide, by decide⟩
  constructor
  · rw [(standard_apply_cast _).2.2.2, Cast.toXsdDecimal_of_isSpelled spelled fits,
      Literal.ofDecimal, Decimal.canonical_toDecimal fits canonical]
    rfl
  · rintro ⟨numeral, same⟩
    exact Decimal.not_mem_text numeral (same ▸ by decide)

/-- Behind the cast to a text a literal with a datatype goes on as its lexical form. -/
theorem Registry.standard_string_bind {lexical : String} {datatype : Iri}
    (next : Term → Except EvalError Term) :
    Registry.standard.apply (.iri Xsd.string) [.literal (.typed lexical datatype)] >>= next =
      next (.literal (.typed lexical Xsd.string)) := by
  rw [(standard_apply_cast _).1]
  rfl

/-- **A literal of an integer datatype casts to a whole number** by way of its text exactly when it
does so directly and its text is a numeral without a point. -/
theorem Registry.standard_integer_via_text {datatype : Iri}
    (isInteger : datatype ∈ Xsd.integerTypes) (lexical : String) :
    let text := trim lexical.toList
    let direct := Registry.standard.apply (.iri Xsd.integer) [.literal (.typed lexical datatype)]
    let viaText := do
      let written ← Registry.standard.apply (.iri Xsd.string) [.literal (.typed lexical datatype)]
      Registry.standard.apply (.iri Xsd.integer) [written]
    (∀ result, viaText = .ok result ↔
      (∃ numeral : DecimalNumeral, numeral.IsWhole ∧ numeral.text = text) ∧ direct = .ok result) ∧
    ((∃ result, direct = .ok result) ↔
      ∃ number, Decimal.Denotes text number ∧ |number| < Decimal.limit) ∧
    (∀ numeral : DecimalNumeral, numeral.IsWhole → numeral.text = text → numeral.number < twoTo 96 →
      ∃ result : DecimalNumeral, result.IsCanonical ∧ result.IsWhole ∧
        result.value = numeral.value ∧
        direct = .ok (.literal (.typed (String.ofList result.text) Xsd.integer))) ∧
    (∀ error, direct = .error error →
      error = .castFailed (.datatype datatype) Xsd.integer (.invalidLexical lexical)) ∧
    ∀ error, viaText = .error error →
      error = .castFailed (.datatype Xsd.string) Xsd.integer (.invalidLexical lexical) := by
  intro text direct viaText
  have castDirect : direct = Cast.toXsdInteger (.literal (.typed lexical datatype)) :=
    (standard_apply_cast _).2.2.1
  have castText : viaText = Cast.toXsdInteger (.literal (.typed lexical Xsd.string)) :=
    (standard_string_bind _).trans (standard_apply_cast _).2.2.1
  rw [castText, castDirect]
  refine ⟨fun result => Cast.toXsdInteger_text_eq_ok isInteger, ?_,
    fun numeral => Cast.toXsdInteger_of_isWhole isInteger, fun error fails => ?_,
    fun error fails => ?_⟩
  · rw [Cast.toXsdInteger_typed isInteger, Cast.exists_map_wellFormed_eq_ok,
      Decimal.exists_ofText?_iff]
  · rw [Cast.toXsdInteger_typed isInteger] at fails
    exact Cast.map_wellFormed_eq_error fails
  · rw [Cast.toXsdInteger_text] at fails
    exact Cast.map_wellFormed_eq_error fails

/-- A negative number with zeros in front and blanks around it. -/
theorem Registry.standard_integer_via_text_padded :
    let numeral : DecimalNumeral := ⟨.minus, ['0', '0', '1', '2'], none, List.all_eq_true.mp rfl,
      List.cons_ne_nil _ _⟩
    let int : Iri := ⟨"http://www.w3.org/2001/XMLSchema#int"⟩
    int ∈ Xsd.integerTypes ∧ numeral.IsWhole ∧ numeral.text = trim " -0012 ".toList ∧
    numeral.number < twoTo 96 ∧
    ∃ result : DecimalNumeral, result.IsCanonical ∧ result.IsWhole ∧
      result.value = numeral.value ∧
      (do
        let written ← Registry.standard.apply (.iri Xsd.string) [.literal (.typed " -0012 " int)]
        Registry.standard.apply (.iri Xsd.integer) [written]) =
          .ok (.literal (.typed (String.ofList result.text) Xsd.integer)) := by
  intro numeral int
  have isInteger : int ∈ Xsd.integerTypes := by decide
  have written : numeral.text = trim " -0012 ".toList := rfl
  have bounded : numeral.number < twoTo 96 := by decide
  obtain ⟨viaText, _, direct, _, _⟩ := standard_integer_via_text isInteger " -0012 "
  obtain ⟨result, canonical, whole, same, succeeds⟩ := direct numeral rfl written bounded
  exact ⟨isInteger, rfl, written, bounded, result, canonical, whole, same,
    (viaText _).mpr ⟨⟨numeral, rfl, written⟩, succeeds⟩⟩

/-- **A point in a literal of an integer datatype** is cut off directly and refused in its text. -/
theorem Registry.pointed_integer_cast :
    Registry.standard.apply (.iri Xsd.integer) [.literal (.typed "1.5" Xsd.integer)] =
      .ok (.literal (.typed "1" Xsd.integer)) ∧
    (do
      let written ← Registry.standard.apply (.iri Xsd.string) [.literal (.typed "1.5" Xsd.integer)]
      Registry.standard.apply (.iri Xsd.integer) [written]) =
        .error (.castFailed (.datatype Xsd.string) Xsd.integer (.invalidLexical "1.5")) := by
  let numeral : DecimalNumeral :=
    ⟨.implicit, ['1'], some ['5'], List.all_eq_true.mp rfl, List.cons_ne_nil _ _⟩
  let one : DecimalNumeral :=
    ⟨.implicit, ['1'], none, List.all_eq_true.mp rfl, List.cons_ne_nil _ _⟩
  have writes : Literal.Writes (.typed "1.5" Xsd.integer) numeral := ⟨by decide, rfl⟩
  have fits : numeral.Fits := ⟨by decide, by decide⟩
  have oneFits : one.Fits := ⟨by decide, by decide⟩
  have canonical : one.IsCanonical :=
    ⟨by decide, by decide, by decide, by decide, by decide, by decide⟩
  have quotient : numeral.number / tenTo numeral.places = one.number := by decide
  have cut : (numeral.toDecimal fits).truncate = one.toDecimal oneFits :=
    (Decimal.mk.injEq ..).mpr ⟨rfl, quotient, rfl⟩
  constructor
  · rw [(standard_apply_cast _).2.2.1, Cast.toXsdInteger_of_writes writes fits (by decide), cut,
      Decimal.canonical_toDecimal oneFits canonical]
    rfl
  · rfl

end QueryAlgebra
