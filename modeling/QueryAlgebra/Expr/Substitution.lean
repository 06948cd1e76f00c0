/-
**Substitutions.**

The three usual rewritings, each with a record of the nodes that it was asked about: a substitution
for variables, the replacement of aggregates by numbered expressions, and a list of rules of which
the first that fits a node replaces it.
-/
import QueryAlgebra.Expr.Rewriting
import QueryAlgebra.Text.Digits

namespace QueryAlgebra.Expr

/-- What a substitution for variables gives, and the variables that it was asked for in order. -/
def substitute (subst : Variable → Expr) (expr : Expr) :
    Except RewriteFault (Expr × List Variable) := do
  let ask : Variable → StateM (List Variable) Expr := fun reference => do
    modify (reference :: ·)
    return subst reference
  let (result, asked) ← expr.replaceVars ask []
  return (result, asked.reverse)

/-- Answers an aggregate with the expression of its number and keeps it, the last one first. -/
def numberAggregate (replacement : Nat → Expr) (aggregate : Expr) : StateM (List Expr) Expr := do
  let before ← get
  set (aggregate :: before)
  return replacement before.length

/-- The expression with its aggregates replaced by the expressions of their numbers, and the
aggregates in order. -/
def hoist (replacement : Nat → Expr) (expr : Expr) : Except RewriteFault (Expr × List Expr) := do
  let (result, aggregates) ← expr.replaceAggregates (numberAggregate replacement) []
  return (result, aggregates.reverse)

/-- The variable that stands for an aggregate of a number. -/
def aggregateVar (number : Nat) : Variable := ⟨String.ofList ('.' :: Text.digitsOf number)⟩

/-- The right side of the first rule whose left side is a node. -/
def ruleFor (rules : List (Expr × Expr)) (node : Expr) : Option Expr :=
  (rules.find? fun rule => rule.1 = node).map Prod.snd

/-- What rules give, and the nodes that they were asked for in order. -/
def applyRules (rules : List (Expr × Expr)) (expr : Expr) :
    Except RewriteFault (Expr × List Expr) := do
  let ask : Replacement (List Expr) := fun node => do
    modify (node :: ·)
    return ruleFor rules node
  let (result, asked) ← expr.rewrite ask []
  return (result, asked.reverse)

end QueryAlgebra.Expr
