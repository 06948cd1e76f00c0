/-
**Functions and their arguments.**

A function takes evaluated arguments and may fail. Functions that take a fixed number of arguments
refuse any other number.
-/
import QueryAlgebra.Error

namespace QueryAlgebra

/-- A function on evaluated arguments. -/
abbrev ExtensionFunction := List Term → Except EvalError Term

/-- The only argument. -/
def singleArgument : List Term → Except EvalError Term
  | [term] => .ok term
  | terms => .error (.typeMismatch (.argumentCount 1 terms.length))

/-- The two arguments. -/
def twoArguments : List Term → Except EvalError (Term × Term)
  | [first, second] => .ok (first, second)
  | terms => .error (.typeMismatch (.argumentCount 2 terms.length))

end QueryAlgebra
