/-
**Functions on truth values.**

Both read their argument as a condition.
-/
import QueryAlgebra.Function.Arguments

namespace QueryAlgebra

/-- The effective boolean value of a term as a condition. -/
def Term.condition (term : Term) : Except EvalError Bool :=
  match term.booleanValue? with
  | some value => .ok value
  | none => .error (.typeMismatch (.notBoolean term))

theorem Term.condition_ofBool (value : Bool) : (Term.ofBool value).condition = .ok value := by
  cases value <;> rfl

namespace Logic

/-- The negation of a condition. -/
def not : ExtensionFunction := fun terms => do
  let value ← (← singleArgument terms).condition
  return .ofBool !value

/-- The truth value of a condition. -/
def boolean : ExtensionFunction := fun terms => do
  let value ← (← singleArgument terms).condition
  return .ofBool value

end Logic

end QueryAlgebra
