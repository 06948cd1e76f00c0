/-
**Truth values of texts and numbers.**

A text is true when it is not empty (`booleanValue?_of_isPlain`), and a literal of an exact number
when it is well formed and its number is not zero. Of a whole number the digits decide, however many
there are (`booleanValue?_of_integer`). A decimal is read, and it is true when the number that it
denotes to the reader lies between half a unit of the last place and the limit
(`booleanValue?_of_decimal`), so that zero is the only number within range and precision that is
false (`booleanValue?_of_fits`).
-/
import QueryAlgebra.Proofs.Decimal.Whole

namespace QueryAlgebra

open Text

/-- The datatypes of floating-point numbers have the value space of those. -/
theorem Xsd.valueSpace_of_floating : ∀ datatype ∈ [double, float],
    valueSpace datatype = .floating := by
  decide

namespace Literal

variable {lexical : String} {datatype : Iri} {numeral : DecimalNumeral}

/-! ### Texts -/

theorem booleanValue?_of_isPlain {literal : Literal} (plain : literal.isPlain = true) :
    literal.booleanValue? = some (literal.lexical != "") := by
  obtain ⟨lexical, annotation⟩ := literal
  cases annotation with
  | none | language tag => rfl
  | datatype iri =>
    have text : iri = Xsd.string := eq_of_beq plain
    subst text
    rfl

/-! ### Whole numbers -/

theorem booleanValue?_integer_eq (isInteger : datatype ∈ Xsd.integerTypes) (lexical : String) :
    (typed lexical datatype).booleanValue? =
      some (isIntegerNumeral (trim lexical.toList) &&
        (dropSign (trim lexical.toList)).any (· != '0')) := by
  have space := Xsd.valueSpace_of_integer datatype isInteger
  rw [booleanValue?]
  simp only [typed, space]
  rfl

/-- **A whole number is true when it is not zero**, however many digits it has. -/
theorem booleanValue?_of_integer (isInteger : datatype ∈ Xsd.integerTypes) (lexical : String) :
    ∃ truth, (typed lexical datatype).booleanValue? = some truth ∧
      (truth = true ↔ ∃ numeral : DecimalNumeral, numeral.IsWhole ∧
        numeral.text = trim lexical.toList ∧ numeral.value ≠ 0) := by
  refine ⟨_, booleanValue?_integer_eq isInteger lexical, ?_⟩
  rw [Bool.and_eq_true, isIntegerNumeral_iff]
  constructor
  · rintro ⟨⟨numeral, whole, same⟩, nonzero⟩
    rw [← same, dropSign_text whole] at nonzero
    exact ⟨numeral, whole, same, whole.any_iff.mp nonzero⟩
  · rintro ⟨numeral, whole, same, nonzero⟩
    rw [← same, dropSign_text whole]
    exact ⟨⟨numeral, whole, rfl⟩, whole.any_iff.mpr nonzero⟩

theorem booleanValue?_of_whole (isInteger : datatype ∈ Xsd.integerTypes) (whole : numeral.IsWhole)
    (written : numeral.text = trim lexical.toList) :
    (typed lexical datatype).booleanValue? = some (decide (numeral.value ≠ 0)) := by
  have accepted : isIntegerNumeral numeral.text = true :=
    isIntegerNumeral_iff.mpr ⟨numeral, whole, rfl⟩
  rw [booleanValue?_integer_eq isInteger, ← written, accepted, dropSign_text whole, Bool.true_and,
    Option.some.injEq, Bool.eq_iff_iff, decide_eq_true_iff]
  exact whole.any_iff

/-- The literal of a natural number is true when the number is not zero. -/
theorem booleanValue?_ofInt (number : Nat) :
    (ofInt number).booleanValue? = some (decide (number ≠ 0)) := by
  have written : (DecimalNumeral.ofNat number).text =
      trim (String.ofList (signedDigits number)).toList := by
    rw [String.toList_ofList]
    show _ = trim (digitsOf number)
    rw [← DecimalNumeral.text_ofNat, DecimalNumeral.trim_text]
  have nonzero : (DecimalNumeral.ofNat number).value ≠ 0 ↔ number ≠ 0 := by
    rw [ne_eq, DecimalNumeral.value_eq_zero_iff, DecimalNumeral.number_ofNat]
  rw [ofInt, booleanValue?_of_whole (by decide) (DecimalNumeral.isWhole_ofNat number) written]
  exact congrArg some (decide_eq_decide.mpr nonzero)

/-! ### Decimals -/

theorem booleanValue?_decimal_eq (lexical : String) :
    (typed lexical Xsd.decimal).booleanValue? =
      some (match Decimal.ofText? (trim lexical.toList) with
        | some value => !value.isZero
        | none => false) :=
  rfl

/-- **A decimal is true when the reader finds it not to be zero.** -/
theorem booleanValue?_of_decimal (lexical : String) :
    ∃ truth, (typed lexical Xsd.decimal).booleanValue? = some truth ∧
      (truth = true ↔ ∃ number, Decimal.Denotes (trim lexical.toList) number ∧
        Decimal.halfUnit ≤ |number| ∧ |number| < Decimal.limit) := by
  refine ⟨_, booleanValue?_decimal_eq lexical, ?_⟩
  constructor
  · intro isTrue
    split at isTrue
    · rename_i decimal read
      obtain ⟨number, denotes⟩ := Decimal.denotes_of_ofText? read
      have reading := Decimal.isReading_ofText? denotes
      refine ⟨number, denotes, le_of_not_gt fun near => ?_, reading.exists_iff.mp ⟨decimal, read⟩⟩
      rw [(reading.isZero_iff decimal read).mpr near] at isTrue
      cases isTrue
    · cases isTrue
  · rintro ⟨number, denotes, nonzero, near⟩
    have reading := Decimal.isReading_ofText? denotes
    obtain ⟨decimal, read⟩ := reading.exists_iff.mpr near
    have notZero : decimal.isZero = false := Bool.eq_false_iff.mpr fun isZero =>
      nonzero.not_gt ((reading.isZero_iff decimal read).mp isZero)
    rw [read]
    exact congrArg (!·) notZero

/-- Within range and precision no number but zero is false. -/
theorem booleanValue?_of_fits (written : numeral.text = trim lexical.toList) (fits : numeral.Fits) :
    (typed lexical Xsd.decimal).booleanValue? = some (decide (numeral.value ≠ 0)) := by
  have isZero : (numeral.toDecimal fits).isZero = decide (numeral.value = 0) := by
    rw [Decimal.isZero, DecimalNumeral.toDecimal, Bool.beq_eq_decide_eq]
    exact decide_eq_decide.mpr DecimalNumeral.value_eq_zero_iff.symm
  rw [booleanValue?_decimal_eq, ← written, Decimal.ofText?_text fits, decide_not, ← isZero]

/-! ### Floating-point numbers -/

theorem booleanValue?_floating_eq (isFloating : datatype ∈ [Xsd.double, Xsd.float])
    (lexical : String) :
    (typed lexical datatype).booleanValue? =
      some (match Floating.ofText? (trim lexical.toList) with
        | some number => !number.isZeroOrNan
        | none => false) := by
  have space := Xsd.valueSpace_of_floating datatype isFloating
  rw [booleanValue?]
  simp only [typed, space]
  rfl

/-! ### Exact numbers -/

/-- **The truth of exact numbers**, whole ones by their digits and decimals by what is read. -/
theorem booleanValue?_exact (lexical : String) :
    let text := trim lexical.toList
    (∀ datatype ∈ Xsd.integerTypes,
      ∃ truth, (typed lexical datatype).booleanValue? = some truth ∧
        (truth = true ↔ ∃ numeral : DecimalNumeral, numeral.IsWhole ∧ numeral.text = text ∧
          numeral.value ≠ 0)) ∧
    (∃ truth, (typed lexical Xsd.decimal).booleanValue? = some truth ∧
      (truth = true ↔ ∃ number, Decimal.Denotes text number ∧
        Decimal.halfUnit ≤ |number| ∧ |number| < Decimal.limit)) ∧
    ∀ numeral : DecimalNumeral, numeral.text = text → numeral.Fits →
      (typed lexical Xsd.decimal).booleanValue? = some (decide (numeral.value ≠ 0)) :=
  ⟨fun _ isInteger => booleanValue?_of_integer isInteger lexical,
    booleanValue?_of_decimal lexical, fun _ => booleanValue?_of_fits⟩

/-- A whole number of 30 digits, and a small decimal. -/
theorem booleanValue?_exact_extremes :
    (Xsd.integer ∈ Xsd.integerTypes ∧
      ∃ truth, (typed " -100000000000000000000000000000 " Xsd.integer).booleanValue? = some truth ∧
        (truth = true ↔ ∃ numeral : DecimalNumeral, numeral.IsWhole ∧
          numeral.text = trim " -100000000000000000000000000000 ".toList ∧ numeral.value ≠ 0)) ∧
    let numeral : DecimalNumeral :=
      ⟨.plus, [], some ['0', '5'], List.all_eq_true.mp rfl, List.cons_ne_nil _ _⟩
    numeral.text = trim "+.05".toList ∧ numeral.Fits ∧
    (typed "+.05" Xsd.decimal).booleanValue? = some (decide (numeral.value ≠ 0)) := by
  have isInteger : Xsd.integer ∈ Xsd.integerTypes := by decide
  refine ⟨⟨isInteger, (booleanValue?_exact _).1 Xsd.integer isInteger⟩, ?_⟩
  intro numeral
  have written : numeral.text = trim "+.05".toList := rfl
  have fits : numeral.Fits := ⟨by decide, by decide⟩
  exact ⟨written, fits, (booleanValue?_exact "+.05").2.2 numeral written fits⟩

/-- **Other notations and other sizes**: what is no numeral is true, what is too large or too small
for a decimal is false. -/
theorem misjudged_decimals :
    ((typed "1e3" Xsd.decimal).booleanValue? = some true ∧
      ¬∃ numeral : DecimalNumeral, numeral.text = trim "1e3".toList) ∧
    ((typed "79228162514264337593543950336" Xsd.decimal).booleanValue? = some false ∧
      ∃ numeral : DecimalNumeral,
        numeral.text = trim "79228162514264337593543950336".toList ∧ numeral.value ≠ 0) ∧
    (typed "0.00000000000000000000000000001" Xsd.decimal).booleanValue? = some false ∧
      ∃ numeral : DecimalNumeral,
        numeral.text = trim "0.00000000000000000000000000001".toList ∧ numeral.value ≠ 0 := by
  refine ⟨⟨by decide, ?_⟩, ⟨by decide, ?_⟩, by decide, ?_⟩
  · rintro ⟨numeral, same⟩
    have inNumeral : 'e' ∈ numeral.text := same ▸ by decide
    rcases DecimalNumeral.mem_text inNumeral with digit | mark
    · cases digit
    · revert mark
      decide
  · refine ⟨⟨.implicit, "79228162514264337593543950336".toList, none, List.all_eq_true.mp rfl,
      List.cons_ne_nil _ _⟩, rfl, ?_⟩
    rw [ne_eq, DecimalNumeral.value_eq_zero_iff]
    decide
  · refine ⟨⟨.implicit, ['0'], some "00000000000000000000000000001".toList,
      List.all_eq_true.mp rfl, List.cons_ne_nil _ _⟩, rfl, ?_⟩
    rw [ne_eq, DecimalNumeral.value_eq_zero_iff]
    decide

end Literal

end QueryAlgebra
