/-
**Plans of operators.**

A plan says what an operator gives: the matches of a pattern, whether there are any, statements
built from them, a fixed result, a failure, or the solutions of another plan that pass a filter.
-/
import QueryAlgebra.Filter
import QueryAlgebra.Power
import QueryAlgebra.Query.Store

namespace QueryAlgebra

/-- A statement to be built from solutions. -/
structure Template where
  subject : Term
  predicate : Iri
  object : Term
  deriving DecidableEq, Repr

namespace Template

/-- The value of a term of a template. -/
def resolve (solution : Solution) : Term → Except EvalError Term
  | .var reference =>
    match solution.lookup reference with
    | some value => .ok value
    | none => .error (.unboundVariable reference.name false)
  | term => .ok term

/-- The statement of a solution. -/
def instantiate (template : Template) (solution : Solution) : Except EvalError Triple := do
  let subject ← resolve solution template.subject
  let object ← resolve solution template.object
  return ⟨subject, template.predicate, object⟩

/-- The statements of solutions, or the error of the first that has none. -/
def instantiateAll (template : Template) : Solutions → Except EvalError (List Triple)
  | [] => .ok []
  | solution :: rest => do
    let statement ← template.instantiate solution
    let statements ← template.instantiateAll rest
    return statement :: statements

end Template

/-- What an operator gives. -/
inductive Plan
  | matches (pattern : Pattern)
  | ask (pattern : Pattern)
  | construct (template : Template) (pattern : Pattern)
  | fixed (result : QueryResult)
  | fail (message : String)
  /-- One solution, which tells how deep an expression may be nested. -/
  | depthLimit
  | filter (condition : Expr) (plan : Plan)

namespace Plan

/-- A word of 64 bits read with its first bit as a sign. -/
def signedWord (word : Nat) : Int := Int.bmod word (twoTo 64)

/-- The solution that tells how deep an expression may be nested. -/
def depthSolution (options : Options) : Solution :=
  Solution.empty.bind ⟨"max_depth"⟩ (.ofInt (signedWord options.maxDepth))

/-- Carries out a plan. -/
def execute {σ : Type} (source : PatternSource σ) (options : Options) :
    Plan → QueryM σ QueryResult
  | .matches pattern => .solutions <$> source.matchPattern pattern options
  | ask pattern => do return .boolean !(← source.matchPattern pattern options).isEmpty
  | construct template pattern => do
    let solutions ← source.matchPattern pattern options
    return .statements (← template.instantiateAll solutions)
  | fixed result => return result
  | fail message => throw (.store message)
  | depthLimit => return .solutions [depthSolution options]
  | filter condition plan => do
    match ← plan.execute source options with
    | .solutions solutions =>
      return .solutions (← Evaluator.standard.filter options solutions (.expression condition))
    | other => throw (.typeMismatch (.notFilterable other.shape))

/-- The operator that carries out a plan. -/
def operator {σ : Type} (plan : Plan) (tag : String) (shape : QueryShape) : Operator σ where
  tag := tag
  shape := shape
  execute := fun source options => plan.execute source options

end Plan

end QueryAlgebra
