/-
**Casts of texts.**

A simple literal and one of datatype `xsd:string` are cast alike: what the target reads in the
lexical form, blanks around it aside, is written in canonical form, and what it does not read is
malformed (`cast_of_isText`). Whole numbers are read in numerals without a point of up to 96 bits
(`wholeOfText?_eq_some_iff`), truth values in four words (`truthOf?_eq_some_iff`) and floating-point
numbers in four words and the numerals in scientific notation, so that each of the casts succeeds
exactly on the lexical forms of its datatype (`standard_cast_of_text`).
-/
import QueryAlgebra.Proofs.Floating.Lexical
import QueryAlgebra.Proofs.Function.LexicalForms

namespace QueryAlgebra

open Text

/-! ### Whole numbers -/

namespace DecimalNumeral

variable {numeral : DecimalNumeral}

theorem IsWhole.abs_value_le_iff (whole : numeral.IsWhole) :
    |numeral.value| ≤ 2 ^ 96 - 1 ↔ numeral.number < twoTo 96 := by
  have power : (2 : Rat) ^ 96 = (twoTo 96 : Nat) := by norm_num [twoTo]
  rw [whole.abs_value, power, le_sub_iff_add_le]
  exact_mod_cast Iff.rfl

theorem IsWhole.exists_value_eq (whole : numeral.IsWhole) :
    ∃ number : Int, numeral.value = number := by
  have value : numeral.value = numeral.sign.factor * numeral.number := by
    rw [DecimalNumeral.value, whole.places_eq, pow_zero, div_one]
  rw [value]
  cases numeral.sign with
  | implicit | plus => exact ⟨numeral.number, by simp [Sign.factor]⟩
  | minus => exact ⟨-numeral.number, by simp [Sign.factor]⟩

end DecimalNumeral

namespace Decimal

variable {decimal : Decimal}

/-- **The canonical text of a whole number** is the number in base ten after its sign, if
negative. -/
theorem canonical_of_whole {number : Int} (whole : decimal.scale = 0)
    (same : decimal.value = number) : decimal.canonical = String.ofList (signedDigits number) := by
  obtain ⟨negative, mantissa, scale, mantissa_lt, scale_le⟩ := decimal
  obtain rfl : scale = 0 := whole
  have text : (Decimal.mk negative mantissa 0 mantissa_lt scale_le).canonical =
      String.ofList ((if negative && mantissa != 0 then ['-'] else []) ++ digitsOf mantissa) := by
    simp [canonical, normalize, toText, dropZeros, isZero, tenTo_eq_pow, bne]
  have value : (number : Rat) = if negative then -(mantissa : Rat) else mantissa := by
    rw [← same, Decimal.value, Decimal.sign]
    cases negative <;> simp [Sign.factor]
  rw [text]
  cases negative with
  | false =>
    have natural : number = mantissa := by exact_mod_cast value
    rw [natural]
    rfl
  | true =>
    have opposite : number = -(mantissa : Int) := by exact_mod_cast value
    rw [opposite]
    cases mantissa <;> rfl

end Decimal

namespace Cast

variable {literal : Literal} {target : Iri} {result : Term} {text : List Char} {truth : Bool}
variable {decimal : Decimal}

/-- **Whole numbers are read** in numerals without a point of up to 96 bits. -/
theorem wholeOfText?_eq_some_iff :
    wholeOfText? text = some decimal ↔
      ∃ (numeral : DecimalNumeral) (whole : numeral.IsWhole) (bounded : numeral.number < twoTo 96),
        numeral.text = text ∧ numeral.toDecimal (whole.fits bounded) = decimal := by
  constructor
  · intro read
    rw [wholeOfText?] at read
    split_ifs at read with accepted
    obtain ⟨numeral, whole, rfl⟩ := Literal.isIntegerNumeral_iff.mp accepted
    have bounded : numeral.number < twoTo 96 := by
      by_contra unbounded
      rw [(Decimal.ofText?_whole whole).1.mpr (Nat.le_of_not_lt unbounded)] at read
      cases read
    rw [Decimal.ofText?_text (whole.fits bounded), Option.some.injEq] at read
    exact ⟨numeral, whole, bounded, rfl, read⟩
  · rintro ⟨numeral, whole, bounded, rfl, rfl⟩
    rw [wholeOfText?, if_pos (Literal.isIntegerNumeral_iff.mpr ⟨numeral, whole, rfl⟩),
      Decimal.ofText?_text (whole.fits bounded)]

/-! ### Truth values -/

/-- The words for a truth value. -/
def truthWords : Bool → List (List Char)
  | true => [['t', 'r', 'u', 'e'], ['1']]
  | false => [['f', 'a', 'l', 's', 'e'], ['0']]

/-- **A truth value is read in its words.** -/
theorem truthOf?_eq_some_iff : truthOf? text = some truth ↔ text ∈ truthWords truth := by
  constructor
  · intro read
    rw [truthOf?] at read
    split_ifs at read with isTrue isFalse
    · cases read
      simpa [truthWords] using isTrue
    · cases read
      simpa [truthWords] using isFalse
  · intro word
    cases truth with
    | true =>
      rw [truthOf?, if_pos (by simpa [truthWords] using word)]
    | false =>
      rcases List.mem_pair.mp word with rfl | rfl <;> rfl

/-! ### Texts -/

/-- **A text is cast** to what the target reads in it, or is malformed. -/
theorem cast_of_isText {α : Type} {ofString : List Char → Option α} {ofTruth : Bool → α}
    {ofNumber : Literal → Number → Except EvalError α} {write : α → Term}
    (isText : literal.effectiveDatatype = Xsd.string) :
    (do
      let source ← castable target (.literal literal)
      let value ← valueOf target ofString ofTruth ofNumber source
      return write value) = write <$> wellFormed literal target (ofString literal.trimmed) := by
  have untagged : literal.effectiveDatatype ≠ Rdf.langString := by
    rw [isText]
    decide
  have space : Xsd.valueSpace literal.effectiveDatatype = .string := by
    rw [isText]
    rfl
  rw [castable_literal untagged]
  simp only [bind, Except.bind, valueOf, space]
  cases ofString literal.trimmed <;> rfl

theorem toXsdInteger_of_isText (isText : literal.effectiveDatatype = Xsd.string) :
    toXsdInteger (.literal literal) =
      (fun decimal => Term.literal (.typed decimal.canonical Xsd.integer)) <$>
        wellFormed literal Xsd.integer (wholeOfText? literal.trimmed) :=
  cast_of_isText isText

theorem toXsdBoolean_of_isText (isText : literal.effectiveDatatype = Xsd.string) :
    toXsdBoolean (.literal literal) =
      Term.ofBool <$> wellFormed literal Xsd.boolean (truthOf? literal.trimmed) :=
  cast_of_isText isText

theorem toXsdFloating_of_isText {format : BinaryFormat}
    (isText : literal.effectiveDatatype = Xsd.string) :
    toXsdFloating target format (.literal literal) =
      (fun number : Floating =>
        Term.literal (.typed ((number.convert format).convert .double).canonical target)) <$>
        wellFormed literal target (Floating.ofLexical? literal.trimmed) :=
  cast_of_isText isText

/-- **A text is cast to a whole number** when it is a numeral of one within 96 bits. -/
theorem toXsdInteger_eq_ok_of_isText (isText : literal.effectiveDatatype = Xsd.string) :
    toXsdInteger (.literal literal) = .ok result ↔
      ∃ numeral : DecimalNumeral, numeral.IsWhole ∧ numeral.text = literal.trimmed ∧
        |numeral.value| ≤ 2 ^ 96 - 1 ∧
        ∃ number : Int, numeral.value = number ∧ result = .ofInt number := by
  have written : ∀ {numeral : DecimalNumeral} (whole : numeral.IsWhole)
      (bounded : numeral.number < twoTo 96) {number : Int}, numeral.value = number →
      (numeral.toDecimal (whole.fits bounded)).canonical = String.ofList (signedDigits number) :=
    fun whole bounded _ value =>
      Decimal.canonical_of_whole whole.places_eq ((Decimal.value_toDecimal _).trans value)
  rw [toXsdInteger_of_isText isText, map_wellFormed_eq_ok]
  constructor
  · rintro ⟨decimal, read, rfl⟩
    obtain ⟨numeral, whole, bounded, same, rfl⟩ := wholeOfText?_eq_some_iff.mp read
    obtain ⟨number, value⟩ := whole.exists_value_eq
    refine ⟨numeral, whole, same, whole.abs_value_le_iff.mpr bounded, number, value, ?_⟩
    rw [written whole bounded value]
    rfl
  · rintro ⟨numeral, whole, same, inRange, number, value, rfl⟩
    have bounded := whole.abs_value_le_iff.mp inRange
    refine ⟨_, wholeOfText?_eq_some_iff.mpr ⟨numeral, whole, bounded, same, rfl⟩, ?_⟩
    rw [written whole bounded value]
    rfl

/-- **A text is cast to a truth value** when it is one of its words. -/
theorem toXsdBoolean_eq_ok_of_isText (isText : literal.effectiveDatatype = Xsd.string) :
    toXsdBoolean (.literal literal) = .ok result ↔
      ∃ truth, literal.trimmed ∈ truthWords truth ∧ result = .ofBool truth := by
  rw [toXsdBoolean_of_isText isText, map_wellFormed_eq_ok]
  refine exists_congr fun truth => ?_
  rw [truthOf?_eq_some_iff, eq_comm (a := result)]

/-- **A text is cast to a floating-point number** when it is a word or a numeral of one. -/
theorem exists_toXsdFloating_iff_of_isText {format : BinaryFormat}
    (isText : literal.effectiveDatatype = Xsd.string) :
    (∃ result, toXsdFloating target format (.literal literal) = .ok result) ↔
      literal.trimmed ∈ Floating.words ∨
        ∃ numeral : ScientificNumeral, numeral.text = literal.trimmed := by
  rw [toXsdFloating_of_isText isText, exists_map_wellFormed_eq_ok, Floating.exists_ofLexical?_iff]

/-- What is read or malformed has a result or is malformed. -/
theorem map_wellFormed_total {α : Type} (literal : Literal) (target : Iri) (read : Option α)
    (write : α → Term) :
    (∃ result, write <$> wellFormed literal target read = .ok result) ∨
      write <$> wellFormed literal target read = .error (malformed literal target) := by
  cases read with
  | none => exact .inr rfl
  | some value => exact .inl ⟨write value, rfl⟩

end Cast

/-! ### The casts of the standard functions -/

/-- **A text is cast exactly when it is a lexical form of the target**: a whole number within 96
bits, a truth value or a floating-point number. -/
theorem Registry.standard_cast_of_text {source : Literal} {lexical : String}
    (isText : source = .simple lexical ∨ source = .typed lexical Xsd.string) :
    let text := trim lexical.toList
    let cast := fun target => Registry.standard.apply (.iri target) [.literal source]
    (∀ result, cast Xsd.integer = .ok result ↔
      ∃ numeral : DecimalNumeral, numeral.IsWhole ∧ numeral.text = text ∧
        |numeral.value| ≤ 2 ^ 96 - 1 ∧
        ∃ number : Int, numeral.value = number ∧ result = .ofInt number) ∧
    (∀ result, cast Xsd.boolean = .ok result ↔
      ∃ truth, text ∈ Cast.truthWords truth ∧ result = .ofBool truth) ∧
    (∀ target ∈ [Xsd.double, Xsd.float], (∃ result, cast target = .ok result) ↔
      text ∈ Floating.words ∨ ∃ numeral : ScientificNumeral, numeral.text = text) ∧
    ∀ target ∈ [Xsd.integer, Xsd.boolean, Xsd.double, Xsd.float],
      (∃ result, cast target = .ok result) ∨
        cast target =
          .error (.castFailed (.datatype source.effectiveDatatype) target
            (.invalidLexical lexical)) := by
  intro text cast
  have datatype : source.effectiveDatatype = Xsd.string := by
    rcases isText with rfl | rfl <;> rfl
  have form : source.lexical = lexical := by
    rcases isText with rfl | rfl <;> rfl
  have trimmed : source.trimmed = text := by rw [Literal.trimmed, form]
  have toInteger : cast Xsd.integer = Cast.toXsdInteger (.literal source) :=
    (standard_apply_cast _).2.2.1
  have toBoolean : cast Xsd.boolean = Cast.toXsdBoolean (.literal source) :=
    (standard_apply_cast _).2.1
  have toFloating : ∀ target ∈ [Xsd.double, Xsd.float], ∃ format,
      cast target = Cast.toXsdFloating target format (.literal source) := by
    simp only [List.forall_mem_cons]
    exact ⟨⟨.double, rfl⟩, ⟨.single, rfl⟩, List.forall_mem_nil _⟩
  rw [← trimmed]
  refine ⟨fun result => ?_, fun result => ?_, fun target isFloating => ?_, fun target isTarget => ?_⟩
  · rw [toInteger, Cast.toXsdInteger_eq_ok_of_isText datatype]
  · rw [toBoolean, Cast.toXsdBoolean_eq_ok_of_isText datatype]
  · obtain ⟨format, same⟩ := toFloating target isFloating
    rw [same, Cast.exists_toXsdFloating_iff_of_isText datatype]
  · rw [← form]
    rcases List.mem_cons.mp isTarget with rfl | isTarget
    · rw [toInteger, Cast.toXsdInteger_of_isText datatype]
      exact Cast.map_wellFormed_total ..
    rcases List.mem_cons.mp isTarget with rfl | isFloating
    · rw [toBoolean, Cast.toXsdBoolean_of_isText datatype]
      exact Cast.map_wellFormed_total ..
    · obtain ⟨format, same⟩ := toFloating target isFloating
      rw [same, Cast.toXsdFloating_of_isText datatype]
      exact Cast.map_wellFormed_total ..

/-- The least whole number with zeros in front of it, a truth value, and a numeral that begins with
a point. -/
theorem Registry.standard_cast_of_text_extremes :
    let least := Literal.typed " -0079228162514264337593543950335\n" Xsd.string
    (least = .simple " -0079228162514264337593543950335\n" ∨
      least = .typed " -0079228162514264337593543950335\n" Xsd.string) ∧
    Registry.standard.apply (.iri Xsd.integer) [.literal least] = .ok (.ofInt (-(2 ^ 96 - 1))) ∧
    Registry.standard.apply (.iri Xsd.boolean) [.literal (.simple "\t1 ")] = .ok (.ofBool true) ∧
    ∃ result, Registry.standard.apply (.iri Xsd.float) [.literal (.simple "+.5E-07")] =
      .ok result := by
  intro least
  let whole : DecimalNumeral := ⟨.minus, [
    '0', '0', '7', '9', '2', '2', '8', '1', '6', '2', '5', '1', '4', '2', '6', '4', '3',
    '3', '7', '5', '9', '3', '5', '4', '3', '9', '5', '0', '3', '3', '5'],
    none, List.all_eq_true.mp rfl, List.cons_ne_nil _ _⟩
  let small : ScientificNumeral :=
    ⟨⟨.plus, [], some ['5'], List.all_eq_true.mp rfl, List.cons_ne_nil _ _⟩,
      some ⟨'E', .minus, ['0', '7'], .inr rfl, List.all_eq_true.mp rfl, List.cons_ne_nil _ _⟩⟩
  have number : whole.number = 2 ^ 96 - 1 := by decide
  have value : whole.value = ((-(2 ^ 96 - 1) : Int) : Rat) := by
    rw [DecimalNumeral.value, number]
    norm_num [whole, Sign.factor, DecimalNumeral.places, DecimalNumeral.decimals]
  have inRange : |whole.value| ≤ 2 ^ 96 - 1 := by
    rw [value]
    norm_num
  obtain ⟨toInteger, _, _, _⟩ := standard_cast_of_text (.inr (rfl : least = _))
  obtain ⟨_, toBoolean, _, _⟩ := standard_cast_of_text (.inl (rfl : Literal.simple "\t1 " = _))
  obtain ⟨_, _, toFloating, _⟩ := standard_cast_of_text (.inl (rfl : Literal.simple "+.5E-07" = _))
  exact ⟨.inr rfl, (toInteger _).mpr ⟨whole, rfl, rfl, inRange, _, value, rfl⟩,
    (toBoolean _).mpr ⟨true, by decide, rfl⟩,
    (toFloating Xsd.float (by decide)).mpr (.inr ⟨small, rfl⟩)⟩

end QueryAlgebra
