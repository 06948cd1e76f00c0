/-
**The shapes of query results.**
-/
namespace QueryAlgebra

/-- What kind of result a query gives: a sequence of solutions, one truth value, or a sequence of
statements. -/
inductive QueryShape
  | solutions
  | boolean
  | statements
  deriving DecidableEq, Repr, Inhabited

namespace QueryShape

/-- The name of a shape in documents. -/
def name : QueryShape → String
  | solutions => "solutions"
  | boolean => "boolean"
  | statements => "statements"

/-- The name of a shape in messages about results. -/
def title : QueryShape → String
  | solutions => "Solutions"
  | boolean => "Boolean"
  | statements => "Statements"

end QueryShape

end QueryAlgebra
