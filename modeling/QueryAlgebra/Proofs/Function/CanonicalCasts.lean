/-
**Casts are idempotent.**

What a cast gives is in the canonical form of its target (`IsCanonicalResult`), and a cast leaves
what is in the canonical form of its target as it is. So a second cast to the same datatype changes
nothing (`standard_cast_idempotent`). This is for the casts to texts, truth values, whole numbers and
decimals, from whatever datatype.
-/
import QueryAlgebra.Proofs.Function.ExactCasts
import QueryAlgebra.Proofs.Function.Results

namespace QueryAlgebra

/-- What is in the canonical form of a datatype. -/
inductive IsCanonicalResult : Iri → Term → Prop
  | string (lexical : String) : IsCanonicalResult Xsd.string (.literal (.typed lexical Xsd.string))
  | false : IsCanonicalResult Xsd.boolean (.literal (.typed "false" Xsd.boolean))
  | true : IsCanonicalResult Xsd.boolean (.literal (.typed "true" Xsd.boolean))
  | integer {numeral : DecimalNumeral} (canonical : numeral.IsCanonical)
      (whole : numeral.fraction = none) (bounded : numeral.number < twoTo 96) :
      IsCanonicalResult Xsd.integer (.literal (.typed (String.ofList numeral.text) Xsd.integer))
  | decimal {numeral : DecimalNumeral} (canonical : numeral.IsCanonical)
      (bounded : numeral.number < twoTo 96) (precise : numeral.places ≤ 28) :
      IsCanonicalResult Xsd.decimal (.literal (.typed (String.ofList numeral.text) Xsd.decimal))

namespace Cast

variable {target : Iri} {literal : Literal} {text : List Char} {value : Decimal}
variable {source result : Term}

/-! ### Numbers without a fraction -/

/-- A floating-point number that was cut toward zero converts to a whole number. -/
theorem scale_of_ofFloating?_truncate {number : Floating}
    (converts : Decimal.ofFloating? number.truncate = some value) : value.scale = 0 := by
  -- after the cut the exponent is not negative
  obtain ⟨negative, significand, doublings, cut⟩ : ∃ negative significand doublings,
      number.truncate = .finite negative significand (.ofNat doublings) := by
    match number with
    | .nan => cases converts
    | .infinite _ => cases converts
    | .finite negative significand (.ofNat doublings) => exact ⟨_, _, _, rfl⟩
    | .finite negative significand (.negSucc places) => exact ⟨_, _, 0, rfl⟩
  rw [cut, Decimal.ofFloating?] at converts
  split at converts
  · exact Decimal.scale_of_ofParts? converts
  · exact Decimal.scale_of_ofParts? converts

theorem ofFloating?_of_exactly {number : Floating}
    (converts : exactly literal target number = .ok value) :
    Decimal.ofFloating? number = some value := by
  unfold exactly at converts
  split at converts
  · split at converts
    · rename_i found
      cases converts
      exact found
    · cases converts
  · cases converts

/-- What a number is cut to has no fraction. -/
theorem scale_of_wholeOf {number : Number} (cut : wholeOf literal number = .ok value) :
    value.scale = 0 := by
  cases number with
  | exact decimal =>
    cases cut
    rfl
  | floating number => exact scale_of_ofFloating?_truncate (ofFloating?_of_exactly cut)

theorem mem_dropSign {c : Char} (member : c ∈ text) :
    c ∈ Literal.dropSign text ∨ c = '+' ∨ c = '-' := by
  unfold Literal.dropSign
  split
  · exact (List.mem_cons.mp member).symm.imp_right .inl
  · exact (List.mem_cons.mp member).symm.imp_right .inr
  · exact .inl member

theorem mem_of_isIntegerNumeral (integer : Literal.isIntegerNumeral text = true) {c : Char}
    (member : c ∈ text) : Text.isDigit c = true ∨ c = '+' ∨ c = '-' := by
  rw [Literal.isIntegerNumeral, Bool.and_eq_true, List.all_eq_true] at integer
  exact (mem_dropSign member).imp_left (integer.2 c)

/-- A text that is read as a whole number has no fraction. -/
theorem scale_of_wholeOfText? (read : wholeOfText? text = some value) : value.scale = 0 := by
  rw [wholeOfText?] at read
  split at read
  · rename_i integer
    refine Decimal.scale_of_ofText? (fun point => ?_) (fun c member => ?_) read
    · rcases mem_of_isIntegerNumeral integer point with digit | sign
      · cases digit
      · revert sign
        decide
    · refine Decimal.isExponentMark_eq_false ((mem_of_isIntegerNumeral integer member).imp_right ?_)
      simp +contextual
  · cases read

/-! ### Results are canonical -/

theorem wellFormed_eq_ok {α : Type} {read : Option α} {value : α}
    (succeeds : wellFormed literal target read = .ok value) : read = some value := by
  cases read with
  | none => cases succeeds
  | some found =>
    cases succeeds
    rfl

/-- The value of a literal is read from a text or made from a truth value or a number. -/
theorem valueOf_eq_ok {α : Type} {value : α} {ofString : List Char → Option α} {ofTruth : Bool → α}
    {ofNumber : Literal → Number → Except EvalError α}
    (succeeds : valueOf target ofString ofTruth ofNumber literal = .ok value) :
    (∃ text, ofString text = some value) ∨ (∃ truth, ofTruth truth = value) ∨
      ∃ number, ofNumber literal number = .ok value := by
  rw [valueOf] at succeeds
  cases space : Xsd.valueSpace literal.effectiveDatatype with rw [space] at succeeds
  | string => exact .inl ⟨_, wellFormed_eq_ok succeeds⟩
  | boolean =>
    obtain ⟨truth, _, same⟩ := Option.map_eq_some_iff.mp (wellFormed_eq_ok succeeds)
    exact .inr (.inl ⟨truth, same⟩)
  | integer | decimal | floating =>
    cases number : numberOf? literal with rw [number] at succeeds
    | none => cases succeeds
    | some found => exact .inr (.inr ⟨found, succeeds⟩)
  | other => cases succeeds

theorem toXsdInteger_isCanonical (succeeds : toXsdInteger source = .ok result) :
    IsCanonicalResult Xsd.integer result := by
  obtain ⟨literal, _, succeeds⟩ := bind_eq_ok.mp succeeds
  obtain ⟨value, found, same⟩ := bind_eq_ok.mp succeeds
  have whole : value.scale = 0 := by
    rcases valueOf_eq_ok found with ⟨text, read⟩ | ⟨truth, rfl⟩ | ⟨number, cut⟩
    · exact scale_of_wholeOfText? read
    · rfl
    · exact scale_of_wholeOf cut
  cases same
  rw [value.canonical_eq]
  exact .integer value.isCanonical_canonicalNumeral (Decimal.fraction_canonicalNumeral whole)
    value.fits_canonicalNumeral.number_lt

theorem toXsdDecimal_isCanonical (succeeds : toXsdDecimal source = .ok result) :
    IsCanonicalResult Xsd.decimal result := by
  obtain ⟨literal, _, succeeds⟩ := bind_eq_ok.mp succeeds
  obtain ⟨value, _, same⟩ := bind_eq_ok.mp succeeds
  cases same
  rw [Literal.ofDecimal, value.canonical_eq]
  exact .decimal value.isCanonical_canonicalNumeral value.fits_canonicalNumeral.number_lt
    value.fits_canonicalNumeral.places_le

theorem toXsdBoolean_isCanonical (succeeds : toXsdBoolean source = .ok result) :
    IsCanonicalResult Xsd.boolean result := by
  obtain ⟨literal, _, succeeds⟩ := bind_eq_ok.mp succeeds
  obtain ⟨value, _, same⟩ := bind_eq_ok.mp succeeds
  cases same
  cases value with
  | false => exact .false
  | true => exact .true

theorem toXsdString_isCanonical (succeeds : toXsdString source = .ok result) :
    IsCanonicalResult Xsd.string result := by
  obtain ⟨lexical, rfl⟩ := toXsdString_targets source result succeeds
  exact .string lexical

/-! ### Canonical results are left as they are -/

/-- A literal made from the text of a numeral writes it. -/
theorem writes_text {datatype : Iri} {numeral : DecimalNumeral}
    (exact : datatype ∈ Xsd.string :: Xsd.decimal :: Xsd.integerTypes) :
    Literal.Writes (.typed (String.ofList numeral.text) datatype) numeral where
  datatype := exact
  form := by
    show Text.trim (String.ofList numeral.text).toList = numeral.text
    rw [String.toList_ofList, numeral.trim_text]

theorem toXsdInteger_of_canonical {numeral : DecimalNumeral} (canonical : numeral.IsCanonical)
    (whole : numeral.fraction = none) (bounded : numeral.number < twoTo 96) :
    toXsdInteger (.literal (.typed (String.ofList numeral.text) Xsd.integer)) =
      .ok (.literal (.typed (String.ofList numeral.text) Xsd.integer)) := by
  have noPlaces : numeral.places = 0 := congrArg (fun fraction => (fraction.getD []).length) whole
  have fits : numeral.Fits := ⟨bounded, noPlaces.trans_le (Nat.zero_le _)⟩
  have numeric : Xsd.integer ≠ Xsd.string := by decide
  have uncut : (numeral.toDecimal fits).truncate = numeral.toDecimal fits :=
    Decimal.truncate_eq_self noPlaces
  have writes : Literal.Writes (.typed (String.ofList numeral.text) Xsd.integer) numeral :=
    writes_text (by decide)
  rw [toXsdInteger_of_writes writes fits numeric, uncut, Decimal.canonical_toDecimal fits canonical]

theorem toXsdDecimal_of_canonical {numeral : DecimalNumeral} (canonical : numeral.IsCanonical)
    (fits : numeral.Fits) :
    toXsdDecimal (.literal (.typed (String.ofList numeral.text) Xsd.decimal)) =
      .ok (.literal (.typed (String.ofList numeral.text) Xsd.decimal)) := by
  rw [toXsdDecimal_of_writes (writes_text (by decide)) fits, Literal.ofDecimal,
    Decimal.canonical_toDecimal fits canonical]

end Cast

/-- **What is in the canonical form of a datatype is cast to itself.** -/
theorem Registry.standard_apply_of_isCanonicalResult {target : Iri} {result : Term}
    (canonical : IsCanonicalResult target result) :
    Registry.standard.apply (.iri target) [result] = .ok result := by
  obtain ⟨toString, toBoolean, toInteger, toDecimal⟩ := standard_apply_cast result
  cases canonical with
  | string lexical =>
    rw [toString]
    rfl
  | false =>
    rw [toBoolean]
    rfl
  | true =>
    rw [toBoolean]
    rfl
  | integer canonical whole bounded =>
    rw [toInteger, Cast.toXsdInteger_of_canonical canonical whole bounded]
  | decimal canonical bounded precise =>
    rw [toDecimal, Cast.toXsdDecimal_of_canonical canonical ⟨bounded, precise⟩]

/-! ### The casts of the standard functions -/

/-- **A cast gives a canonical result, and a second one changes nothing.** -/
theorem Registry.standard_cast_idempotent {target : Iri} {source result : Term}
    (isTarget : target ∈ [Xsd.string, Xsd.boolean, Xsd.integer, Xsd.decimal])
    (succeeds : Registry.standard.apply (.iri target) [source] = .ok result) :
    Registry.standard.apply (.iri target) [result] = .ok result ∧
      IsCanonicalResult target result := by
  have canonical : IsCanonicalResult target result := by
    obtain ⟨toString, toBoolean, toInteger, toDecimal⟩ := standard_apply_cast source
    simp only [List.mem_cons, List.not_mem_nil, or_false] at isTarget
    rcases isTarget with rfl | rfl | rfl | rfl
    · exact Cast.toXsdString_isCanonical (toString ▸ succeeds)
    · exact Cast.toXsdBoolean_isCanonical (toBoolean ▸ succeeds)
    · exact Cast.toXsdInteger_isCanonical (toInteger ▸ succeeds)
    · exact Cast.toXsdDecimal_isCanonical (toDecimal ▸ succeeds)
  exact ⟨standard_apply_of_isCanonicalResult canonical, canonical⟩

/-- A truth value in its other spelling, cast to a whole number. -/
theorem Registry.standard_cast_idempotent_truth :
    Xsd.integer ∈ [Xsd.string, Xsd.boolean, Xsd.integer, Xsd.decimal] ∧
    Registry.standard.apply (.iri Xsd.integer) [.literal (.typed " 1 " Xsd.boolean)] =
      .ok (.literal (.typed "1" Xsd.integer)) ∧
    Registry.standard.apply (.iri Xsd.integer) [.literal (.typed "1" Xsd.integer)] =
      .ok (.literal (.typed "1" Xsd.integer)) ∧
    IsCanonicalResult Xsd.integer (.literal (.typed "1" Xsd.integer)) := by
  have read : Cast.toXsdInteger (.literal (.typed " 1 " Xsd.boolean)) =
      .ok (.literal (.typed (Decimal.ofBool true).canonical Xsd.integer)) := rfl
  have written : (Decimal.ofBool true).canonical = "1" := by
    have digits : (Decimal.ofBool true).canonical = String.ofList (Text.digitsOf 1) := rfl
    rw [digits, Text.digitsOf_of_lt (by decide)]
    rfl
  have succeeds : Registry.standard.apply (.iri Xsd.integer)
      [.literal (.typed " 1 " Xsd.boolean)] = .ok (.literal (.typed "1" Xsd.integer)) := by
    rw [(standard_apply_cast _).2.2.1, read, written]
  have isTarget : Xsd.integer ∈ [Xsd.string, Xsd.boolean, Xsd.integer, Xsd.decimal] := by decide
  exact ⟨isTarget, succeeds, standard_cast_idempotent isTarget succeeds⟩

end QueryAlgebra
