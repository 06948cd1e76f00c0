/-
**The results of the standard functions.**

What a standard function gives is a literal, and the name of the function tells which kind of literal
(`standard_hasResults`). A cast gives a literal of the datatype that it is named for. A predicate on
texts and a function on conditions give a truth value, the length of a text gives the numeral of the
number of its characters, and a case mapping gives a text with the datatype and the language of its
argument.
-/
import QueryAlgebra.Proofs.Function.Registry
import QueryAlgebra.Proofs.Sequence

namespace QueryAlgebra

/-! ### What the name of a function tells -/

/-- The datatypes that there is a cast to. -/
def castTargets : List Iri :=
  [Xsd.string, Xsd.boolean, Xsd.integer, Xsd.decimal, Xsd.double, Xsd.float]

/-- The standard functions that give a truth value. -/
def truthFunctions : List Iri :=
  [Fn.startsWith, Fn.endsWith, Fn.contains, Fn.not, Fn.boolean]

/-- The standard functions that map the case of a text. -/
def caseMappings : List Iri := [Fn.upperCase, Fn.lowerCase]

/-- What the name of a standard function tells of its result on arguments. -/
inductive IsStandardResult : Iri → List Term → Literal → Prop
  | cast {target : Iri} {source : Term} {result : Literal} (isTarget : target ∈ castTargets)
      (datatype : result.datatype? = some target) (untagged : result.language? = none) :
      IsStandardResult target [source] result
  | truth {name : Iri} {args : List Term} {result : Literal} (isTruth : name ∈ truthFunctions)
      (datatype : result.datatype? = some Xsd.boolean) (untagged : result.language? = none)
      (form : result.lexical = "true" ∨ result.lexical = "false") :
      IsStandardResult name args result
  | length {text result : Literal} (datatype : result.datatype? = some Xsd.integer)
      (untagged : result.language? = none)
      (form : result.lexical = toString text.lexical.length) :
      IsStandardResult Fn.stringLength [.literal text] result
  | casing {name : Iri} {text result : Literal} (isMapping : name ∈ caseMappings)
      (plain : result.isPlain = true) (sameLanguage : result.language? = text.language?)
      (sameDatatype : result.datatype? = text.datatype?) :
      IsStandardResult name [.literal text] result

/-- Whether what a function gives is a literal as the name of a standard function tells. -/
def HasStandardResults (name : Iri) (function : ExtensionFunction) : Prop :=
  ∀ args value, function args = .ok value →
    ∃ result, value = .literal result ∧ IsStandardResult name args result

/-- A truth value is the result of a function that gives truth values. -/
theorem isStandardResult_ofBool {name : Iri} (isTruth : name ∈ truthFunctions) (args : List Term)
    (value : Bool) : IsStandardResult name args (.ofBool value) := by
  refine .truth isTruth rfl rfl ?_
  cases value with
  | true => exact .inl rfl
  | false => exact .inr rfl

/-! ### The arguments of a function that succeeds -/

theorem singleArgument_eq_ok {args : List Term} {term : Term}
    (succeeds : singleArgument args = .ok term) : args = [term] := by
  match args with
  | [] => cases succeeds
  | [only] =>
    cases succeeds
    rfl
  | _ :: _ :: _ => cases succeeds

/-- A function of one argument succeeds on one argument. -/
theorem of_singleArgument {args : List Term} {next : Term → Except EvalError Term} {value : Term}
    (succeeds : (singleArgument args >>= next) = .ok value) :
    ∃ term, args = [term] ∧ next term = .ok value := by
  obtain ⟨term, only, succeeds⟩ := bind_eq_ok.mp succeeds
  exact ⟨term, singleArgument_eq_ok only, succeeds⟩

/-! ### Functions on truth values -/

namespace Logic

/-- A function that reads its argument as a condition and gives a truth value. -/
theorem hasResults_of_condition {name : Iri} (isTruth : name ∈ truthFunctions)
    (answer : Bool → Bool) : HasStandardResults name fun terms => do
      let value ← (← singleArgument terms).condition
      return .ofBool (answer value) := by
  intro args value succeeds
  obtain ⟨term, _, gives⟩ := of_singleArgument succeeds
  obtain ⟨truth, _, same⟩ := bind_eq_ok.mp gives
  cases same
  exact ⟨_, rfl, isStandardResult_ofBool isTruth args _⟩

theorem not_hasResults : HasStandardResults Fn.not Logic.not :=
  hasResults_of_condition (by decide) _

theorem boolean_hasResults : HasStandardResults Fn.boolean Logic.boolean :=
  hasResults_of_condition (by decide) _

end Logic

/-! ### Functions on texts -/

namespace Strings

theorem textLiteral_of_isPlain {text : Literal} (plain : text.isPlain = true) :
    textLiteral (.literal text) = .ok text :=
  if_pos plain

/-- What is read as a text is a literal that is one. -/
theorem textLiteral_eq_ok {term : Term} {text : Literal} (succeeds : textLiteral term = .ok text) :
    term = .literal text ∧ text.isPlain = true := by
  unfold textLiteral at succeeds
  split at succeeds
  · split at succeeds
    · rename_i plain
      cases succeeds
      exact ⟨rfl, plain⟩
    · cases succeeds
  · cases succeeds

theorem predicate_hasResults {name : Iri} (isTruth : name ∈ truthFunctions) (operator : Iri)
    (holds : List Char → List Char → Bool) :
    HasStandardResults name (predicate operator holds) := by
  intro args value succeeds
  obtain ⟨⟨first, second⟩, _, succeeds⟩ := bind_eq_ok.mp succeeds
  obtain ⟨left, _, succeeds⟩ := bind_eq_ok.mp succeeds
  obtain ⟨right, _, succeeds⟩ := bind_eq_ok.mp succeeds
  by_cases fits : compatible first second = true
  · rw [if_pos fits] at succeeds
    cases succeeds
    exact ⟨_, rfl, isStandardResult_ofBool isTruth args _⟩
  · rw [if_neg fits] at succeeds
    cases succeeds

theorem stringLength_hasResults : HasStandardResults Fn.stringLength stringLength := by
  intro args value succeeds
  obtain ⟨term, rfl, gives⟩ := of_singleArgument succeeds
  obtain ⟨text, isText, same⟩ := bind_eq_ok.mp gives
  obtain ⟨rfl, _⟩ := textLiteral_eq_ok isText
  cases same
  refine ⟨_, rfl, .length rfl rfl ?_⟩
  show String.ofList (Text.digitsOf text.lexical.toList.length) = _
  rw [Text.digitsOf_eq_toDigits, String.length_toList, ← Nat.repr_eq_ofList_toDigits,
    Nat.toString_eq_repr]

theorem mapText_hasResults {name : Iri} (isMapping : name ∈ caseMappings)
    (map : List Char → List Char) : HasStandardResults name (mapText map) := by
  intro args value succeeds
  obtain ⟨term, rfl, gives⟩ := of_singleArgument succeeds
  obtain ⟨text, isText, same⟩ := bind_eq_ok.mp gives
  obtain ⟨rfl, plain⟩ := textLiteral_eq_ok isText
  cases same
  exact ⟨_, rfl, .casing isMapping plain rfl rfl⟩

end Strings

/-! ### Casts -/

namespace Cast

/-- Whether what a cast gives is a literal of a datatype. -/
def Targets (target : Iri) (cast : Term → Except EvalError Term) : Prop :=
  ∀ source value, cast source = .ok value → ∃ lexical, value = .literal (.typed lexical target)

/-- A cast that reads a literal and writes a literal of a datatype. -/
theorem targets_of_write {α : Type} {target : Iri} (read : Term → Except EvalError Literal)
    (valueOf : Literal → Except EvalError α) (write : α → String) :
    Targets target fun source => do
      let literal ← read source
      let value ← valueOf literal
      return .literal (.typed (write value) target) := by
  intro source value succeeds
  obtain ⟨literal, _, succeeds⟩ := bind_eq_ok.mp succeeds
  obtain ⟨read, _, same⟩ := bind_eq_ok.mp succeeds
  cases same
  exact ⟨_, rfl⟩

theorem toXsdString_targets : Targets Xsd.string toXsdString := by
  intro source value succeeds
  unfold toXsdString at succeeds
  split at succeeds
  · cases succeeds
    exact ⟨_, rfl⟩
  · obtain ⟨literal, _, same⟩ := bind_eq_ok.mp succeeds
    cases same
    exact ⟨_, rfl⟩

theorem toXsdBoolean_targets : Targets Xsd.boolean toXsdBoolean :=
  targets_of_write _ _ fun value : Bool => if value then "true" else "false"

theorem toXsdInteger_targets : Targets Xsd.integer toXsdInteger := targets_of_write _ _ _

theorem toXsdDecimal_targets : Targets Xsd.decimal toXsdDecimal := targets_of_write _ _ _

theorem toXsdFloating_targets (target : Iri) (format : BinaryFormat) :
    Targets target (toXsdFloating target format) := targets_of_write _ _ _

theorem function_hasResults {target : Iri} {cast : Term → Except EvalError Term}
    (isTarget : target ∈ castTargets) (targets : Targets target cast) :
    HasStandardResults target (Cast.function cast) := by
  intro args value succeeds
  obtain ⟨source, rfl, gives⟩ := of_singleArgument succeeds
  obtain ⟨lexical, rfl⟩ := targets source value gives
  exact ⟨_, rfl, .cast isTarget rfl rfl⟩

end Cast

/-! ### The standard functions -/

/-- **A standard function gives a literal as its name tells.** -/
theorem standard_hasResults {name : Iri} {arity : Nat} {function : ExtensionFunction}
    (member : (name, arity, function) ∈ standardFunctions) : HasStandardResults name function := by
  simp only [standardFunctions, List.mem_cons, List.not_mem_nil, or_false, Prod.mk.injEq] at member
  rcases member with ⟨rfl, _, rfl⟩ | ⟨rfl, _, rfl⟩ | ⟨rfl, _, rfl⟩ | ⟨rfl, _, rfl⟩ | ⟨rfl, _, rfl⟩ |
    ⟨rfl, _, rfl⟩ | ⟨rfl, _, rfl⟩ | ⟨rfl, _, rfl⟩ | ⟨rfl, _, rfl⟩ | ⟨rfl, _, rfl⟩ | ⟨rfl, _, rfl⟩ |
    ⟨rfl, _, rfl⟩ | ⟨rfl, _, rfl⟩ | ⟨rfl, _, rfl⟩
  · exact Cast.function_hasResults (by decide) Cast.toXsdString_targets
  · exact Cast.function_hasResults (by decide) Cast.toXsdBoolean_targets
  · exact Cast.function_hasResults (by decide) Cast.toXsdInteger_targets
  · exact Cast.function_hasResults (by decide) Cast.toXsdDecimal_targets
  · exact Cast.function_hasResults (by decide) (Cast.toXsdFloating_targets _ _)
  · exact Cast.function_hasResults (by decide) (Cast.toXsdFloating_targets _ _)
  · exact Strings.predicate_hasResults (by decide) _ _
  · exact Strings.predicate_hasResults (by decide) _ _
  · exact Strings.predicate_hasResults (by decide) _ _
  · exact Strings.stringLength_hasResults
  · exact Strings.mapText_hasResults (by decide) _
  · exact Strings.mapText_hasResults (by decide) _
  · exact Logic.not_hasResults
  · exact Logic.boolean_hasResults

end QueryAlgebra
