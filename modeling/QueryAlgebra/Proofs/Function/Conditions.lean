/-
**Conditions as functions.**

What a term counts for in a condition is given by `fn:boolean`, and the opposite by `fn:not`; the
cast to `xsd:boolean` reads literals on its own. Where the cast succeeds for a truth value or a
number it agrees with the condition (`booleanValue?_of_toXsdBoolean`): what is read as a
floating-point number by the words of the datatype is read by the others to the same number
(`Floating.ofText?_of_ofLexical?`), and of a whole numeral the digits decide as its number does. One
after the other the functions give what `fn:boolean` gives, and so does the length of a text
(`standard_conditions_agree`).
-/
import QueryAlgebra.Proofs.Floating.Lexical
import QueryAlgebra.Proofs.Function.LexicalForms
import QueryAlgebra.Proofs.Term.Truth

namespace QueryAlgebra

open Text

/-! ### Floating-point numbers -/

namespace Floating

variable {text : List Char} {number : Floating} {numeral : Numeral}

theorem StartsNumeral.toLower_eq {c : Char} (starts : StartsNumeral c) : c.toLower = c := by
  rcases starts with digit | rfl
  · have bounds := isDigit_iff.mp digit
    have noCapital : ¬('A'.val ≤ c.val ∧ c.val ≤ 'Z'.val) := fun ⟨least, _⟩ => by
      have above : 65 ≤ c.toNat := UInt32.le_iff_toNat_le.mp least
      omega
    exact dif_neg noCapital
  · rfl

theorem exists_startsNumeral (read : Numeral.ofText? text = some numeral) :
    ∃ c rest, (Numeral.splitSign text).2 = c :: rest ∧ StartsNumeral c := by
  obtain ⟨scientific, rfl⟩ := Numeral.exists_text_of_ofText? read
  obtain ⟨c, rest, unsigned, starts⟩ := scientific.significand.exists_unsigned_eq_cons
  rw [Numeral.splitSign_text, unsigned]
  exact ⟨c, rest ++ NumeralExponent.textOf scientific.exponent, rfl, starts⟩

/-- **What is read by the words of the datatype** is read by the other words to the same number. -/
theorem ofText?_of_ofLexical? (read : ofLexical? text = some number) :
    ofText? text = some number := by
  rw [ofLexical?] at read
  split_ifs at read with infinity negative missing
  · cases read
    rcases infinity with rfl | rfl <;> decide
  · cases read
    subst negative
    decide
  · cases read
    subst missing
    decide
  · -- a numeral starts with neither an i nor an n, so it is none of the other words
    obtain ⟨numeral, found, rfl⟩ := Option.map_eq_some_iff.mp read
    obtain ⟨c, rest, unsigned, starts⟩ := exists_startsNumeral found
    let word := String.ofList ((c :: rest).map Char.toLower)
    have noWord : ∀ first behind, ¬StartsNumeral first →
        word ≠ String.ofList (first :: behind) := by
      intro first behind noStart same
      rw [String.ofList_inj, List.map_cons, starts.toLower_eq] at same
      exact noStart ((List.cons.inj same).1 ▸ starts)
    have notShort : word ≠ "inf" := noWord 'i' ['n', 'f'] (by decide)
    have notLong : word ≠ "infinity" :=
      noWord 'i' ['n', 'f', 'i', 'n', 'i', 't', 'y'] (by decide)
    have notMissing : word ≠ "nan" := noWord 'n' ['a', 'n'] (by decide)
    rw [ofText?]
    simp only [unsigned, word] at notShort notLong notMissing ⊢
    rw [decide_eq_false notShort, decide_eq_false notLong, Bool.or_self, if_neg Bool.false_ne_true,
      if_neg notMissing, read]

end Floating

/-! ### The cast to truth values -/

namespace Cast

variable {lexical : String} {datatype : Iri} {result : Term}

/-- A number is cast to whether it is neither zero nor missing. -/
theorem toXsdBoolean_numeric (numeric : Xsd.isNumeric datatype = true) (lexical : String) :
    toXsdBoolean (.literal (.typed lexical datatype)) =
      (fun number => Term.ofBool !number.isZeroOrNan) <$>
        wellFormed (.typed lexical datatype) Xsd.boolean (numberOf? (.typed lexical datatype)) := by
  have source : castable Xsd.boolean (.literal (.typed lexical datatype)) =
      .ok (.typed lexical datatype) := rfl
  have effective : (Literal.typed lexical datatype).effectiveDatatype = datatype := rfl
  rw [toXsdBoolean, source]
  simp only [bind, Except.bind, valueOf, effective]
  rw [Xsd.isNumeric] at numeric
  cases space : Xsd.valueSpace datatype with
  | integer | decimal | floating => cases numberOf? (.typed lexical datatype) <;> rfl
  | string | boolean | other =>
    rw [space] at numeric
    cases numeric

theorem toXsdBoolean_boolean (lexical : String) :
    toXsdBoolean (.literal (.typed lexical Xsd.boolean)) =
      Term.ofBool <$> wellFormed (.typed lexical Xsd.boolean) Xsd.boolean
        (truthOf? (trim lexical.toList)) := by
  have read : toXsdBoolean (.literal (.typed lexical Xsd.boolean)) =
      Term.ofBool <$> wellFormed (.typed lexical Xsd.boolean) Xsd.boolean
        ((truthOf? (trim lexical.toList)).map id) := rfl
  rw [read, Option.map_id_fun, id_eq]

/-! ### The same values as conditions -/

theorem booleanValue?_of_truthOf? {truth : Bool}
    (read : truthOf? (trim lexical.toList) = some truth) :
    (Literal.typed lexical Xsd.boolean).booleanValue? = some truth := by
  have value : (Literal.typed lexical Xsd.boolean).booleanValue? =
      some (trim lexical.toList == ['t', 'r', 'u', 'e'] || trim lexical.toList == ['1']) := rfl
  rw [value]
  generalize trim lexical.toList = text at read ⊢
  rw [truthOf?] at read
  split_ifs at read with isTrue isFalse
  · rcases isTrue with rfl | rfl <;> exact read
  · rcases isFalse with rfl | rfl <;> exact read

variable {number : Number}

/-- A whole numeral is true when the number that it is cast from is not zero. -/
theorem booleanValue?_of_integerNumber {numeral : DecimalNumeral}
    (isInteger : datatype ∈ Xsd.integerTypes) (whole : numeral.IsWhole)
    (written : numeral.text = trim lexical.toList)
    (denotes : numberOf? (.typed lexical datatype) = some number) :
    (Literal.typed lexical datatype).booleanValue? = some !number.isZeroOrNan := by
  have space : Xsd.valueSpace (Literal.typed lexical datatype).effectiveDatatype = .integer :=
    Xsd.valueSpace_of_integer datatype isInteger
  rw [numberOf?, space] at denotes
  obtain ⟨decimal, read, rfl⟩ := Option.map_eq_some_iff.mp denotes
  have found : Decimal.ofText? numeral.text = some decimal := written ▸ read
  have isZero : decimal.isZero = decide (numeral.value = 0) := by
    rw [Bool.eq_iff_iff, decide_eq_true_iff]
    exact (Decimal.ofText?_whole whole).2 decimal found
  rw [Literal.booleanValue?_of_whole isInteger whole written, decide_not, ← isZero]
  rfl

theorem booleanValue?_of_decimalNumber
    (denotes : numberOf? (.typed lexical Xsd.decimal) = some number) :
    (Literal.typed lexical Xsd.decimal).booleanValue? = some !number.isZeroOrNan := by
  obtain ⟨decimal, read, rfl⟩ := Option.map_eq_some_iff.mp denotes
  have found : Decimal.ofText? (trim lexical.toList) = some decimal := read
  rw [Literal.booleanValue?_decimal_eq, found]
  rfl

theorem booleanValue?_of_floatingNumber (isFloating : datatype ∈ [Xsd.double, Xsd.float])
    (denotes : numberOf? (.typed lexical datatype) = some number) :
    (Literal.typed lexical datatype).booleanValue? = some !number.isZeroOrNan := by
  have space : Xsd.valueSpace (Literal.typed lexical datatype).effectiveDatatype = .floating :=
    Xsd.valueSpace_of_floating datatype isFloating
  rw [numberOf?, space] at denotes
  obtain ⟨floating, read, rfl⟩ := Option.map_eq_some_iff.mp denotes
  have found : Floating.ofText? (trim lexical.toList) = some floating :=
    Floating.ofText?_of_ofLexical? read
  rw [Literal.booleanValue?_floating_eq isFloating, found]
  rfl

/-- **Where the cast succeeds it gives the truth value of the literal as a condition.** -/
theorem booleanValue?_of_toXsdBoolean
    (readable : datatype ∈ [Xsd.boolean, Xsd.decimal, Xsd.double, Xsd.float] ∨
      datatype ∈ Xsd.integerTypes ∧ ∃ numeral : DecimalNumeral, numeral.IsWhole ∧
        numeral.text = trim lexical.toList)
    (succeeds : toXsdBoolean (.literal (.typed lexical datatype)) = .ok result) :
    ∃ truth, (Literal.typed lexical datatype).booleanValue? = some truth ∧
      .ofBool truth = result := by
  by_cases isTruth : datatype = Xsd.boolean
  · subst isTruth
    rw [toXsdBoolean_boolean, map_wellFormed_eq_ok] at succeeds
    obtain ⟨truth, read, same⟩ := succeeds
    exact ⟨truth, booleanValue?_of_truthOf? read, same⟩
  have numeric : Xsd.isNumeric datatype = true ∧ ∀ number,
      numberOf? (.typed lexical datatype) = some number →
      (Literal.typed lexical datatype).booleanValue? = some !number.isZeroOrNan := by
    rcases readable with listed | ⟨isInteger, numeral, whole, written⟩
    · rcases List.mem_cons.mp ((List.mem_cons.mp listed).resolve_left isTruth) with rfl | isFloating
      · exact ⟨rfl, fun _ => booleanValue?_of_decimalNumber⟩
      · refine ⟨?_, fun _ => booleanValue?_of_floatingNumber isFloating⟩
        rw [Xsd.isNumeric, Xsd.valueSpace_of_floating datatype isFloating]
    · refine ⟨?_, fun _ => booleanValue?_of_integerNumber isInteger whole written⟩
      rw [Xsd.isNumeric, Xsd.valueSpace_of_integer datatype isInteger]
  rw [toXsdBoolean_numeric numeric.1, map_wellFormed_eq_ok] at succeeds
  obtain ⟨number, denotes, same⟩ := succeeds
  exact ⟨_, numeric.2 number denotes, same⟩

end Cast

/-! ### The standard functions -/

theorem Term.condition_of_booleanValue? {literal : Literal} {truth : Bool}
    (value : literal.booleanValue? = some truth) :
    (Term.literal literal).condition = .ok truth := by
  have same : (Term.literal literal).booleanValue? = some truth := value
  rw [Term.condition, same]

namespace Registry

/-- The functions on truth values are functions of the condition. -/
theorem standard_apply_condition (source : Term) :
    Registry.standard.apply (.iri Fn.not) [source] =
      (fun truth => Term.ofBool !truth) <$> source.condition ∧
    Registry.standard.apply (.iri Fn.boolean) [source] = Term.ofBool <$> source.condition := by
  have negated : Registry.standard.apply (.iri Fn.not) [source] = Logic.not [source] := rfl
  have itself : Registry.standard.apply (.iri Fn.boolean) [source] = Logic.boolean [source] := rfl
  have argument : singleArgument [source] = .ok source := rfl
  rw [negated, itself, Logic.not, Logic.boolean, argument]
  simp only [bind, Except.bind]
  cases source.condition <;> exact ⟨rfl, rfl⟩

/-- What keeps truth values keeps those that a term counts for. -/
theorem bind_condition {source : Term} {next : Term → Except EvalError Term}
    (keeps : ∀ truth, next (.ofBool truth) = .ok (.ofBool truth)) :
    Registry.standard.apply (.iri Fn.boolean) [source] >>= next =
      Registry.standard.apply (.iri Fn.boolean) [source] := by
  rw [(standard_apply_condition source).2]
  cases source.condition with
  | error error => rfl
  | ok truth => exact keeps truth

/-- What turns truth values round turns those of a negation back. -/
theorem bind_negation {source : Term} {next : Term → Except EvalError Term}
    (negates : ∀ truth, next (.ofBool truth) = .ok (.ofBool !truth)) :
    Registry.standard.apply (.iri Fn.not) [source] >>= next =
      Registry.standard.apply (.iri Fn.boolean) [source] := by
  rw [(standard_apply_condition source).1, (standard_apply_condition source).2]
  cases source.condition with
  | error error => rfl
  | ok truth => exact (negates !truth).trans (by rw [Bool.not_not]; rfl)

theorem standard_not_ofBool (truth : Bool) :
    Registry.standard.apply (.iri Fn.not) [.ofBool truth] = .ok (.ofBool !truth) := by
  rw [(standard_apply_condition _).1, Term.condition_ofBool]
  rfl

theorem standard_boolean_ofBool (truth : Bool) :
    Registry.standard.apply (.iri Fn.boolean) [.ofBool truth] = .ok (.ofBool truth) := by
  rw [(standard_apply_condition _).2, Term.condition_ofBool]
  rfl

theorem standard_cast_ofBool (truth : Bool) :
    Registry.standard.apply (.iri Xsd.boolean) [.ofBool truth] = .ok (.ofBool truth) := by
  rw [(standard_apply_cast _).2.1]
  cases truth <;> rfl

theorem standard_stringLength {literal : Literal} (plain : literal.isPlain = true) :
    Registry.standard.apply (.iri Fn.stringLength) [.literal literal] =
      .ok (.ofInt literal.lexical.toList.length) := by
  have applied : Registry.standard.apply (.iri Fn.stringLength) [.literal literal] =
      Strings.textLiteral (.literal literal) >>= fun text =>
        .ok (.ofInt text.lexical.toList.length) := rfl
  rw [applied, Strings.textLiteral_of_isPlain plain]
  rfl

/-- A text is true when its length is. -/
theorem standard_boolean_stringLength {literal : Literal} (plain : literal.isPlain = true) :
    (do
      let length ← Registry.standard.apply (.iri Fn.stringLength) [.literal literal]
      Registry.standard.apply (.iri Fn.boolean) [length]) =
        Registry.standard.apply (.iri Fn.boolean) [.literal literal] := by
  have same : decide (literal.lexical.toList.length ≠ 0) = (literal.lexical != "") := by
    rw [Bool.eq_iff_iff, decide_eq_true_iff, bne_iff_ne, ne_eq, List.length_eq_zero_iff,
      String.toList_eq_nil_iff]
  rw [standard_stringLength plain]
  simp only [bind, Except.bind]
  rw [(standard_apply_condition _).2, (standard_apply_condition _).2, Term.ofInt,
    Term.condition_of_booleanValue? (Literal.booleanValue?_ofInt _),
    Term.condition_of_booleanValue? (Literal.booleanValue?_of_isPlain plain), same]

/-- **The functions on truth values agree with one another**, and with the cast to `xsd:boolean` and
the length of texts. -/
theorem standard_conditions_agree :
    (∀ (lexical : String) (datatype : Iri) (result : Term),
      (datatype ∈ [Xsd.boolean, Xsd.decimal, Xsd.double, Xsd.float] ∨
        datatype ∈ Xsd.integerTypes ∧ ∃ numeral : DecimalNumeral, numeral.IsWhole ∧
          numeral.text = trim lexical.toList) →
      Registry.standard.apply (.iri Xsd.boolean) [.literal (.typed lexical datatype)] =
        .ok result →
      Registry.standard.apply (.iri Fn.boolean) [.literal (.typed lexical datatype)] =
        .ok result) ∧
    (∀ source : Term,
      (do
        let negated ← Registry.standard.apply (.iri Fn.not) [source]
        Registry.standard.apply (.iri Fn.not) [negated]) =
          Registry.standard.apply (.iri Fn.boolean) [source] ∧
      (do
        let truth ← Registry.standard.apply (.iri Fn.boolean) [source]
        Registry.standard.apply (.iri Fn.boolean) [truth]) =
          Registry.standard.apply (.iri Fn.boolean) [source] ∧
      (do
        let truth ← Registry.standard.apply (.iri Fn.boolean) [source]
        Registry.standard.apply (.iri Xsd.boolean) [truth]) =
          Registry.standard.apply (.iri Fn.boolean) [source] ∧
      ∀ error, Registry.standard.apply (.iri Fn.not) [source] = .error error ↔
        Registry.standard.apply (.iri Fn.boolean) [source] = .error error) ∧
    ∀ literal : Literal, literal.isPlain = true →
      (do
        let length ← Registry.standard.apply (.iri Fn.stringLength) [.literal literal]
        Registry.standard.apply (.iri Fn.boolean) [length]) =
          Registry.standard.apply (.iri Fn.boolean) [.literal literal] := by
  refine ⟨fun lexical datatype result readable succeeds => ?_,
    fun source => ⟨bind_negation standard_not_ofBool, bind_condition standard_boolean_ofBool,
      bind_condition standard_cast_ofBool, fun error => ?_⟩,
    fun literal => standard_boolean_stringLength⟩
  · rw [(standard_apply_cast _).2.1] at succeeds
    obtain ⟨truth, value, rfl⟩ := Cast.booleanValue?_of_toXsdBoolean readable succeeds
    rw [(standard_apply_condition _).2, Term.condition_of_booleanValue? value]
    rfl
  · rw [(standard_apply_condition source).1, (standard_apply_condition source).2, map_eq_error,
      map_eq_error]

/-- A negative number with zeros in front of it, and a text in a language. -/
theorem standard_conditions_agree_samples :
    let text := Literal.tagged "x" "en"
    ((Xsd.integer ∈ Xsd.integerTypes ∧ ∃ numeral : DecimalNumeral, numeral.IsWhole ∧
        numeral.text = trim " -0012 ".toList) ∧
      Registry.standard.apply (.iri Xsd.boolean) [.literal (.typed " -0012 " Xsd.integer)] =
        .ok (.ofBool true) ∧
      Registry.standard.apply (.iri Fn.boolean) [.literal (.typed " -0012 " Xsd.integer)] =
        .ok (.ofBool true)) ∧
    text.isPlain = true ∧
    (do
      let length ← Registry.standard.apply (.iri Fn.stringLength) [.literal text]
      Registry.standard.apply (.iri Fn.boolean) [length]) =
        Registry.standard.apply (.iri Fn.boolean) [.literal text] := by
  intro text
  let numeral : DecimalNumeral :=
    ⟨.minus, ['0', '0', '1', '2'], none, List.all_eq_true.mp rfl, List.cons_ne_nil _ _⟩
  have fits : numeral.Fits := ⟨by decide, by decide⟩
  have writes : Literal.Writes (.typed " -0012 " Xsd.integer) numeral := ⟨by decide, rfl⟩
  have isInteger : Xsd.integer ∈ Xsd.integerTypes := by decide
  have whole : ∃ numeral : DecimalNumeral, numeral.IsWhole ∧
      numeral.text = trim " -0012 ".toList := ⟨numeral, rfl, rfl⟩
  have cast : Registry.standard.apply (.iri Xsd.boolean) [.literal (.typed " -0012 " Xsd.integer)] =
      .ok (.ofBool true) := by
    rw [(standard_apply_cast _).2.1, Cast.toXsdBoolean_numeric rfl,
      Cast.numberOf?_of_writes writes fits (by decide)]
    rfl
  obtain ⟨ofCast, _, ofLength⟩ := standard_conditions_agree
  exact ⟨⟨⟨isInteger, whole⟩, cast, ofCast _ _ _ (.inr ⟨isInteger, whole⟩) cast⟩,
    rfl, ofLength text rfl⟩

end Registry

end QueryAlgebra
