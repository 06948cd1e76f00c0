/-
**The errors of the standard functions.**

A standard function fails in one of two ways (`standard_failsByArity`). Called with another number of
arguments than it is registered for, it reports the two numbers. Called with as many, it fails on
account of the arguments themselves: with a term of the wrong kind, with arguments that are not
compatible or with a failed cast. It never reports an unbound variable, an unknown operator or the
depth limit of the evaluation that calls it.
-/
import QueryAlgebra.Proofs.Function.Registry
import QueryAlgebra.Proofs.Sequence

namespace QueryAlgebra

/-- Whether a mismatch lies with a term that a function was handed. -/
def Mismatch.IsOfTerm : Mismatch → Prop
  | .notCastable _ => True
  | .notText _ => True
  | .notBoolean _ => True
  | _ => False

/-- Whether an error lies with the arguments of a function and not with their number. -/
def EvalError.IsOperandError : EvalError → Prop
  | .typeMismatch mismatch => mismatch.IsOfTerm
  | .incompatibleArguments .. => True
  | .castFailed .. => True
  | _ => False

/-- Whether an error lies with the arguments of a function. -/
def EvalError.IsArgumentError : EvalError → Prop
  | .typeMismatch _ => True
  | .incompatibleArguments .. => True
  | .castFailed .. => True
  | _ => False

theorem EvalError.IsOperandError.isArgumentError {error : EvalError} (fault : error.IsOperandError) :
    error.IsArgumentError := by
  cases error with
  | typeMismatch mismatch => trivial
  | incompatibleArguments operator left right => trivial
  | castFailed source target fault => trivial
  | _ => exact fault

/-- Whether a computation can only fail on account of arguments. -/
def FailsOnArguments {α : Type} (computation : Except EvalError α) : Prop :=
  ∀ error, computation = .error error → error.IsArgumentError

/-- Whether a computation can only fail on account of arguments, whatever their number. -/
def FailsOnOperands {α : Type} (computation : Except EvalError α) : Prop :=
  ∀ error, computation = .error error → error.IsOperandError

namespace FailsOnOperands

variable {α β : Type}

theorem ok (value : α) : FailsOnOperands (.ok value : Except EvalError α) :=
  fun _ same => by cases same

theorem error {error : EvalError} (isOperandError : error.IsOperandError) :
    FailsOnOperands (.error error : Except EvalError α) := by
  intro other same
  cases same
  exact isOperandError

theorem bind {first : Except EvalError α} {next : α → Except EvalError β}
    (inFirst : FailsOnOperands first) (inNext : ∀ value, FailsOnOperands (next value)) :
    FailsOnOperands (first >>= next) := by
  intro error failed
  rcases bind_eq_error.mp failed with failed | ⟨value, _, failed⟩
  · exact inFirst error failed
  · exact inNext value error failed

end FailsOnOperands

/-! ### The number of arguments -/

/-- How a function of a number of arguments fails: on account of the number if it is another, and of
the arguments themselves if it is not. -/
structure FailsByArity (arity : Nat) (function : ExtensionFunction) : Prop where
  counted : ∀ args, args.length ≠ arity →
    function args = .error (.typeMismatch (.argumentCount arity args.length))
  onOperands : ∀ args, args.length = arity → FailsOnOperands (function args)

namespace FailsByArity

theorem of_single {next : Term → Except EvalError Term}
    (inNext : ∀ term, FailsOnOperands (next term)) :
    FailsByArity 1 fun args => singleArgument args >>= next := by
  refine ⟨fun args differs => ?_, fun args same => ?_⟩
  · match args with
    | [] => rfl
    | [term] => exact absurd rfl differs
    | _ :: _ :: _ => rfl
  · match args, same with
    | [term], _ => exact inNext term

theorem of_two {next : Term × Term → Except EvalError Term}
    (inNext : ∀ terms, FailsOnOperands (next terms)) :
    FailsByArity 2 fun args => twoArguments args >>= next := by
  refine ⟨fun args differs => ?_, fun args same => ?_⟩
  · match args with
    | [] => rfl
    | [_] => rfl
    | [first, second] => exact absurd rfl differs
    | _ :: _ :: _ :: _ => rfl
  · match args, same with
    | [first, second], _ => exact inNext (first, second)

end FailsByArity

theorem condition_failsOnOperands (term : Term) : FailsOnOperands term.condition := by
  unfold Term.condition
  split
  · exact .ok _
  · exact .error trivial

/-! ### Functions on truth values -/

namespace Logic

theorem not_failsByArity : FailsByArity 1 Logic.not :=
  .of_single fun term => (condition_failsOnOperands term).bind fun _ => .ok _

theorem boolean_failsByArity : FailsByArity 1 Logic.boolean :=
  .of_single fun term => (condition_failsOnOperands term).bind fun _ => .ok _

end Logic

/-! ### Functions on texts -/

namespace Strings

theorem textLiteral_failsOnOperands (term : Term) : FailsOnOperands (textLiteral term) := by
  unfold textLiteral
  split
  · split
    · exact .ok _
    · exact .error trivial
  · exact .error trivial

theorem predicate_failsByArity (operator : Iri) (holds : List Char → List Char → Bool) :
    FailsByArity 2 (predicate operator holds) := by
  refine .of_two fun (first, second) => ?_
  refine (textLiteral_failsOnOperands first).bind fun left => ?_
  refine (textLiteral_failsOnOperands second).bind fun right => ?_
  split
  · exact .ok _
  · exact .error trivial

theorem stringLength_failsByArity : FailsByArity 1 stringLength :=
  .of_single fun term => (textLiteral_failsOnOperands term).bind fun _ => .ok _

theorem mapText_failsByArity (map : List Char → List Char) : FailsByArity 1 (mapText map) :=
  .of_single fun term => (textLiteral_failsOnOperands term).bind fun _ => .ok _

end Strings

/-! ### Casts -/

namespace Cast

theorem castable_failsOnOperands (target : Iri) (term : Term) :
    FailsOnOperands (castable target term) := by
  unfold castable
  split
  · split
    · exact .error trivial
    · exact .ok _
  · exact .error trivial
  · exact .error trivial

theorem wellFormed_failsOnOperands {α : Type} (literal : Literal) (target : Iri)
    (value : Option α) : FailsOnOperands (wellFormed literal target value) := by
  cases value with
  | none => exact .error trivial
  | some value => exact .ok value

theorem exactly_failsOnOperands (literal : Literal) (target : Iri) (value : Floating) :
    FailsOnOperands (exactly literal target value) := by
  unfold exactly
  split
  · split
    · exact .ok _
    · exact .error trivial
  · exact .error trivial

theorem valueOf_failsOnOperands {α : Type} (target : Iri) (ofString : List Char → Option α)
    (ofTruth : Bool → α) {ofNumber : Literal → Number → Except EvalError α} (literal : Literal)
    (inNumber : ∀ number, FailsOnOperands (ofNumber literal number)) :
    FailsOnOperands (valueOf target ofString ofTruth ofNumber literal) := by
  unfold valueOf
  cases Xsd.valueSpace literal.effectiveDatatype with
  | string => exact wellFormed_failsOnOperands literal target _
  | boolean => exact wellFormed_failsOnOperands literal target _
  | integer | decimal | floating =>
    cases numberOf? literal with
    | none => exact .error trivial
    | some number => exact inNumber number
  | other => exact .error trivial

theorem wholeOf_failsOnOperands (literal : Literal) (number : Number) :
    FailsOnOperands (wholeOf literal number) := by
  cases number with
  | exact value => exact .ok _
  | floating value => exact exactly_failsOnOperands literal Xsd.integer value.truncate

theorem decimalOf_failsOnOperands (literal : Literal) (number : Number) :
    FailsOnOperands (decimalOf literal number) := by
  cases number with
  | exact value => exact .ok _
  | floating value => exact exactly_failsOnOperands literal Xsd.decimal value

theorem toXsdString_failsOnOperands (term : Term) : FailsOnOperands (toXsdString term) := by
  unfold toXsdString
  split
  · exact .ok _
  · exact (castable_failsOnOperands Xsd.string term).bind fun _ => .ok _

theorem toXsdBoolean_failsOnOperands (term : Term) : FailsOnOperands (toXsdBoolean term) :=
  (castable_failsOnOperands Xsd.boolean term).bind fun literal =>
    (valueOf_failsOnOperands _ _ _ literal fun _ => .ok _).bind fun _ => .ok _

theorem toXsdInteger_failsOnOperands (term : Term) : FailsOnOperands (toXsdInteger term) :=
  (castable_failsOnOperands Xsd.integer term).bind fun literal =>
    (valueOf_failsOnOperands _ _ _ literal (wholeOf_failsOnOperands literal)).bind fun _ => .ok _

theorem toXsdDecimal_failsOnOperands (term : Term) : FailsOnOperands (toXsdDecimal term) :=
  (castable_failsOnOperands Xsd.decimal term).bind fun literal =>
    (valueOf_failsOnOperands _ _ _ literal (decimalOf_failsOnOperands literal)).bind fun _ =>
      .ok _

theorem toXsdFloating_failsOnOperands (target : Iri) (format : BinaryFormat) (term : Term) :
    FailsOnOperands (toXsdFloating target format term) :=
  (castable_failsOnOperands target term).bind fun literal =>
    (valueOf_failsOnOperands _ _ _ literal fun _ => .ok _).bind fun _ => .ok _

theorem function_failsByArity {cast : Term → Except EvalError Term}
    (inCast : ∀ term, FailsOnOperands (cast term)) : FailsByArity 1 (Cast.function cast) :=
  .of_single inCast

end Cast

/-! ### The standard functions -/

/-- **A standard function takes the number of arguments that it is registered for**, and with that
number it fails on account of the arguments alone. -/
theorem standard_failsByArity {name : Iri} {arity : Nat} {function : ExtensionFunction}
    (member : (name, arity, function) ∈ standardFunctions) : FailsByArity arity function := by
  simp only [standardFunctions, List.mem_cons, List.not_mem_nil, or_false, Prod.mk.injEq] at member
  rcases member with ⟨_, rfl, rfl⟩ | ⟨_, rfl, rfl⟩ | ⟨_, rfl, rfl⟩ | ⟨_, rfl, rfl⟩ | ⟨_, rfl, rfl⟩ |
    ⟨_, rfl, rfl⟩ | ⟨_, rfl, rfl⟩ | ⟨_, rfl, rfl⟩ | ⟨_, rfl, rfl⟩ | ⟨_, rfl, rfl⟩ | ⟨_, rfl, rfl⟩ |
    ⟨_, rfl, rfl⟩ | ⟨_, rfl, rfl⟩ | ⟨_, rfl, rfl⟩
  · exact Cast.function_failsByArity Cast.toXsdString_failsOnOperands
  · exact Cast.function_failsByArity Cast.toXsdBoolean_failsOnOperands
  · exact Cast.function_failsByArity Cast.toXsdInteger_failsOnOperands
  · exact Cast.function_failsByArity Cast.toXsdDecimal_failsOnOperands
  · exact Cast.function_failsByArity (Cast.toXsdFloating_failsOnOperands _ _)
  · exact Cast.function_failsByArity (Cast.toXsdFloating_failsOnOperands _ _)
  · exact Strings.predicate_failsByArity _ _
  · exact Strings.predicate_failsByArity _ _
  · exact Strings.predicate_failsByArity _ _
  · exact Strings.stringLength_failsByArity
  · exact Strings.mapText_failsByArity _
  · exact Strings.mapText_failsByArity _
  · exact Logic.not_failsByArity
  · exact Logic.boolean_failsByArity

/-- **A standard function fails on account of its arguments alone**, their number included. -/
theorem standard_failsOnArguments {name : Iri} {arity : Nat} {function : ExtensionFunction}
    (member : (name, arity, function) ∈ standardFunctions) (args : List Term) :
    FailsOnArguments (function args) := by
  have fails := standard_failsByArity member
  intro error failed
  by_cases same : args.length = arity
  · exact (fails.onOperands args same error failed).isArgumentError
  · rw [fails.counted args same] at failed
    cases failed
    trivial

end QueryAlgebra
