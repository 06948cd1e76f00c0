/-
**Casts of decimal numerals.**

A literal *writes* a numeral when its datatype is that of texts, of decimals or of whole numbers and
its lexical form is the numeral, blanks around it aside (`Literal.Writes`). A numeral that fits into a
decimal is cast without rounding: the cast to `xsd:decimal` gives the canonical numeral of the same
number, and the cast to `xsd:integer` that of its whole part (`standard_cast_exact`).
-/
import QueryAlgebra.Evaluation
import QueryAlgebra.Proofs.Decimal.Reading

namespace QueryAlgebra

/-! ### Literals that write numerals -/

/-- Whether a literal writes a decimal numeral. -/
structure Literal.Writes (literal : Literal) (numeral : DecimalNumeral) : Prop where
  datatype : literal.effectiveDatatype ∈ Xsd.string :: Xsd.decimal :: Xsd.integerTypes
  form : literal.trimmed = numeral.text

/-- The datatypes of exact numbers have the value spaces of those. -/
theorem Xsd.valueSpace_of_exact : ∀ datatype ∈ decimal :: integerTypes,
    valueSpace datatype = .integer ∨ valueSpace datatype = .decimal := by
  decide

theorem Literal.Writes.valueSpace {literal : Literal} {numeral : DecimalNumeral}
    (writes : literal.Writes numeral) (numeric : literal.effectiveDatatype ≠ Xsd.string) :
    Xsd.valueSpace literal.effectiveDatatype = .integer ∨
      Xsd.valueSpace literal.effectiveDatatype = .decimal :=
  Xsd.valueSpace_of_exact _ ((List.mem_cons.mp writes.datatype).resolve_left numeric)

namespace Cast

variable {target : Iri} {literal : Literal} {numeral : DecimalNumeral}

/-- A literal without a language is cast. -/
theorem castable_literal (untagged : literal.effectiveDatatype ≠ Rdf.langString) :
    castable target (.literal literal) = .ok literal := by
  obtain ⟨lexical, annotation⟩ := literal
  cases annotation with
  | none => rfl
  | datatype iri => rfl
  | language tag => exact absurd rfl untagged

theorem castable_of_writes (writes : literal.Writes numeral) :
    castable target (.literal literal) = .ok literal := by
  refine castable_literal fun tagged => ?_
  have datatype := writes.datatype
  rw [tagged] at datatype
  revert datatype
  decide

/-- A literal of a numeric datatype denotes the decimal of the numeral that it writes. -/
theorem numberOf?_of_writes (writes : literal.Writes numeral) (fits : numeral.Fits)
    (numeric : literal.effectiveDatatype ≠ Xsd.string) :
    numberOf? literal = some (.exact (numeral.toDecimal fits)) := by
  have read : Decimal.ofText? literal.trimmed = some (numeral.toDecimal fits) := by
    rw [writes.form, Decimal.ofText?_text fits]
  rcases writes.valueSpace numeric with space | space
  · rw [numberOf?, space, read]
    rfl
  · rw [numberOf?, space, read]
    rfl

/-- A value of a literal of a numeric datatype is one of its number. -/
theorem valueOf_of_writes {α : Type} {ofString : List Char → Option α} {ofTruth : Bool → α}
    {ofNumber : Literal → Number → Except EvalError α} (writes : literal.Writes numeral)
    (fits : numeral.Fits) (numeric : literal.effectiveDatatype ≠ Xsd.string) :
    valueOf target ofString ofTruth ofNumber literal =
      ofNumber literal (.exact (numeral.toDecimal fits)) := by
  rcases writes.valueSpace numeric with space | space <;>
    rw [valueOf, space, numberOf?_of_writes writes fits numeric]

/-- **A numeral that fits is cast to the decimal that it is.** -/
theorem toXsdDecimal_of_writes (writes : literal.Writes numeral) (fits : numeral.Fits) :
    toXsdDecimal (.literal literal) = .ok (.literal (.ofDecimal (numeral.toDecimal fits))) := by
  have read : valueOf Xsd.decimal decimalOfText? Decimal.ofBool decimalOf literal =
      .ok (numeral.toDecimal fits) := by
    by_cases string : literal.effectiveDatatype = Xsd.string
    · have noMark : numeral.text.any Decimal.isExponentMark = false :=
        List.any_eq_false.mpr fun c member => by
          rw [Decimal.isExponentMark_eq_false (DecimalNumeral.mem_text member)]
          exact Bool.false_ne_true
      rw [valueOf, string, show Xsd.valueSpace Xsd.string = .string from rfl, writes.form,
        decimalOfText?, noMark, if_neg Bool.false_ne_true, Decimal.ofText?_text fits]
      rfl
    · exact valueOf_of_writes writes fits string
  rw [toXsdDecimal, castable_of_writes writes]
  simp only [bind, Except.bind, read]
  rfl

/-- **Of a numeric datatype it is cast to the whole number that it is cut to.** -/
theorem toXsdInteger_of_writes (writes : literal.Writes numeral) (fits : numeral.Fits)
    (numeric : literal.effectiveDatatype ≠ Xsd.string) :
    toXsdInteger (.literal literal) =
      .ok (.literal (.typed (numeral.toDecimal fits).truncate.canonical Xsd.integer)) := by
  rw [toXsdInteger, castable_of_writes writes]
  simp only [bind, Except.bind, valueOf_of_writes writes fits numeric]
  rfl

end Cast

/-! ### The casts of the standard functions -/

/-- The casts are registered under their targets. -/
theorem Registry.standard_apply_cast (source : Term) :
    Registry.standard.apply (.iri Xsd.string) [source] = Cast.toXsdString source ∧
    Registry.standard.apply (.iri Xsd.boolean) [source] = Cast.toXsdBoolean source ∧
    Registry.standard.apply (.iri Xsd.integer) [source] = Cast.toXsdInteger source ∧
    Registry.standard.apply (.iri Xsd.decimal) [source] = Cast.toXsdDecimal source :=
  ⟨rfl, rfl, rfl, rfl⟩

/-- **Casts of decimal numerals are exact.** -/
theorem Registry.standard_cast_exact {literal : Literal} {numeral : DecimalNumeral}
    (writes : literal.Writes numeral) (fits : numeral.Fits) :
    (∃ result : DecimalNumeral, result.IsCanonical ∧ result.value = numeral.value ∧
      Registry.standard.apply (.iri Xsd.decimal) [.literal literal] =
        .ok (.literal (.typed (String.ofList result.text) Xsd.decimal))) ∧
    (literal.effectiveDatatype ≠ Xsd.string →
      ∃ result : DecimalNumeral, result.IsCanonical ∧ result.fraction = none ∧
        result.value = wholePart numeral.value ∧
        Registry.standard.apply (.iri Xsd.integer) [.literal literal] =
          .ok (.literal (.typed (String.ofList result.text) Xsd.integer))) ∧
    ∀ (other : Literal) (otherNumeral : DecimalNumeral), other.Writes otherNumeral →
      otherNumeral.Fits →
      (Registry.standard.apply (.iri Xsd.decimal) [.literal literal] =
        Registry.standard.apply (.iri Xsd.decimal) [.literal other] ↔
          numeral.value = otherNumeral.value) := by
  obtain ⟨_, _, toInteger, toDecimal⟩ := standard_apply_cast (.literal literal)
  have value := Decimal.value_toDecimal fits
  refine ⟨⟨(numeral.toDecimal fits).canonicalNumeral, Decimal.isCanonical_canonicalNumeral _,
      (Decimal.value_canonicalNumeral _).trans value, ?_⟩,
    fun numeric => ⟨(numeral.toDecimal fits).truncate.canonicalNumeral,
      Decimal.isCanonical_canonicalNumeral _, Decimal.fraction_canonicalNumeral rfl, ?_, ?_⟩,
    fun other otherNumeral otherWrites otherFits => ?_⟩
  · rw [toDecimal, ← Decimal.canonical_eq]
    exact Cast.toXsdDecimal_of_writes writes fits
  · rw [Decimal.value_canonicalNumeral, Decimal.value_truncate, value]
  · rw [toInteger, ← Decimal.canonical_eq]
    exact Cast.toXsdInteger_of_writes writes fits numeric
  · obtain ⟨_, _, _, otherToDecimal⟩ := standard_apply_cast (.literal other)
    rw [toDecimal, otherToDecimal, Cast.toXsdDecimal_of_writes writes fits,
      Cast.toXsdDecimal_of_writes otherWrites otherFits, ← value,
      ← Decimal.value_toDecimal otherFits, ← Decimal.canonical_eq_iff]
    simp [Literal.ofDecimal, Literal.typed]

/-- Two spellings of one negative number. -/
theorem Registry.standard_cast_exact_spellings :
    let padded : DecimalNumeral :=
      ⟨.minus, ['0', '0', '7'], some ['5', '0'], List.all_eq_true.mp rfl, List.cons_ne_nil _ _⟩
    let short : DecimalNumeral :=
      ⟨.minus, ['7'], some ['5'], List.all_eq_true.mp rfl, List.cons_ne_nil _ _⟩
    Literal.Writes (.typed " -007.50 " Xsd.decimal) padded ∧ padded.Fits ∧
    Literal.Writes (.simple "-7.5") short ∧ short.Fits ∧
    Registry.standard.apply (.iri Xsd.decimal) [.literal (.typed " -007.50 " Xsd.decimal)] =
      Registry.standard.apply (.iri Xsd.decimal) [.literal (.simple "-7.5")] := by
  intro padded short
  have writes : Literal.Writes (.typed " -007.50 " Xsd.decimal) padded := ⟨by decide, rfl⟩
  have fits : padded.Fits := ⟨by decide, by decide⟩
  have otherWrites : Literal.Writes (.simple "-7.5") short := ⟨by decide, rfl⟩
  have otherFits : short.Fits := ⟨by decide, by decide⟩
  have paddedValue : padded.value = -1 * (750 / 10 ^ 2) := rfl
  have shortValue : short.value = -1 * (75 / 10 ^ 1) := rfl
  have same : padded.value = short.value := by
    rw [paddedValue, shortValue]
    norm_num
  exact ⟨writes, fits, otherWrites, otherFits,
    ((standard_cast_exact writes fits).2.2 _ _ otherWrites otherFits).mpr same⟩

end QueryAlgebra
