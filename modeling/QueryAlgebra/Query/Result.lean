/-
**Query results.**

A query gives solutions, a truth value or statements. What is handed on depends on the shape that
was declared: solutions are handed on as they are, anything else as an enumeration of single items.
-/
import QueryAlgebra.Error
import QueryAlgebra.Pattern.Triple
import QueryAlgebra.Solution

namespace QueryAlgebra

/-- What a query gives. -/
inductive QueryResult
  | solutions (solutions : Solutions)
  | boolean (value : Bool)
  | statements (statements : List Triple)
  deriving DecidableEq, Repr

/-- One item of a result. -/
inductive ResultItem
  | solution (solution : Solution)
  | boolean (value : Bool)
  | statement (statement : Triple)
  deriving DecidableEq, Repr

namespace QueryResult

/-- The shape that a result has. -/
def shape : QueryResult → QueryShape
  | solutions _ => .solutions
  | boolean _ => .boolean
  | statements _ => .statements

/-- The items of a result in order. -/
def items : QueryResult → List ResultItem
  | solutions all => all.map .solution
  | boolean value => [.boolean value]
  | statements all => all.map .statement

end QueryResult

/-- An enumeration of the items that are left, under a declared shape. -/
structure ResultEnumerator where
  shape : QueryShape
  items : List ResultItem
  deriving DecidableEq, Repr

namespace ResultEnumerator

/-- The enumeration of a result. -/
def ofResult (shape : QueryShape) (result : QueryResult) : ResultEnumerator :=
  ⟨shape, result.items⟩

/-- The next item, if one is left, and what is left after it. -/
def next (enumerator : ResultEnumerator) : Option ResultItem × ResultEnumerator :=
  (enumerator.items.head?, { enumerator with items := enumerator.items.tail })

/-- The number of items that are left. -/
def size (enumerator : ResultEnumerator) : Nat := enumerator.items.length

end ResultEnumerator

/-- A result as it is handed on. -/
inductive QueryOutput
  | solutions (solutions : Solutions)
  | enumerator (enumerator : ResultEnumerator)
  deriving DecidableEq, Repr

namespace QueryOutput

/-- The shape of what is handed on. -/
def shape : QueryOutput → QueryShape
  | solutions _ => .solutions
  | enumerator items => items.shape

/-- Hands a result on under a declared shape; no other result stands for solutions. -/
def ofResult : QueryShape → QueryResult → Except EvalError QueryOutput
  | .solutions, .solutions all => .ok (.solutions all)
  | .solutions, other => .error (.typeMismatch (.notSolutions other.shape))
  | shape, result => .ok (.enumerator (.ofResult shape result))

end QueryOutput

end QueryAlgebra
