/-
**Filters.**

A filter keeps the solutions that satisfy a criterion, in their order. A solution for which a
condition fails is dropped or, under the other policy, makes the whole filter fail.
-/
import QueryAlgebra.Evaluation

namespace QueryAlgebra

/-- What a filter asks of a solution. -/
inductive Criterion
  /-- That the effective boolean value of an expression is true. -/
  | expression (expr : Expr)
  | predicate (holds : Solution → Bool)

/-- What can be asked of a variable in a solution. -/
inductive VariableTest
  | isBound
  | isListed
  | isExplicitlyUnbound
  /-- Whether the value is a literal. -/
  | isLiteral
  /-- Whether the solution has no variables at all. -/
  | isNowhere
  deriving DecidableEq, Repr

/-- The answer of a solution to a test of a variable. -/
def VariableTest.holds (reference : Variable) (solution : Solution) : VariableTest → Bool
  | isBound => solution.isBound reference
  | isListed => solution.contains reference
  | isExplicitlyUnbound => solution.isExplicitlyUnbound reference
  | isLiteral => (solution.lookup reference).any fun value => value.literal?.isSome
  | isNowhere => solution.isEmpty

namespace Evaluator

/-- The solutions for which an expression is true. -/
def filterBy (evaluator : Evaluator) (options : Options) (expr : Expr) :
    Solutions → Except EvalError Solutions
  | [] => .ok []
  | solution :: rest =>
    match evaluator.condition options solution.bindings expr, options.filterErrors with
    | .ok true, _ => (solution :: ·) <$> evaluator.filterBy options expr rest
    | .ok false, _ => evaluator.filterBy options expr rest
    | .error _, .exclude => evaluator.filterBy options expr rest
    | .error error, .propagate => .error error

/-- The solutions that satisfy a criterion. -/
def filter (evaluator : Evaluator) (options : Options) (solutions : Solutions) :
    Criterion → Except EvalError Solutions
  | .expression expr => evaluator.filterBy options expr solutions
  | .predicate holds => .ok (solutions.filter holds)

end Evaluator

end QueryAlgebra
