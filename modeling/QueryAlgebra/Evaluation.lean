/-
**Evaluation of expressions.**

A constant is its own value and a variable has the value that the bindings give it. The value of a
compound is what the function gives that its tag selects: the tag is evaluated first and then the
arguments from left to right, and the first error among them is the error of the compound. A node
nested deeper than the options allow is an error.
-/
import QueryAlgebra.Expr.Basic
import QueryAlgebra.Function.Logic
import QueryAlgebra.Function.Standard
import QueryAlgebra.Options
import QueryAlgebra.Solution

namespace QueryAlgebra

/-- The value of a variable. -/
def Bindings.value (bindings : Bindings) (reference : Variable) : Except EvalError Term :=
  if bindings.isExplicitlyUnbound reference then .error (.unboundVariable reference.name true)
  else
    match bindings.lookup reference with
    | some term => .ok term
    | none => .error (.unboundVariable reference.name false)

/-- The value of a constant; one that holds a variable has the value of the variable. -/
def Bindings.constantValue (bindings : Bindings) : Term → Except EvalError Term
  | .var reference => bindings.value reference
  | term => .ok term

/-- Calls the function that a tag and arguments select. -/
def Registry.apply (registry : Registry) (tag : Term) (args : List Term) :
    Except EvalError Term :=
  match registry.get tag args.length with
  | some function => function args
  | none => .error (.unknownOperator tag args.length)

mutual

/-- The value of a node that stands at a depth, where none may stand deeper than a limit. -/
def Registry.reduce (registry : Registry) (bindings : Bindings) (limit depth : Nat)
    (expr : Expr) : Except EvalError Term :=
  if limit < depth then .error .recursionLimit
  else
    match expr with
    | .constant term => bindings.constantValue term
    | .var reference => bindings.value reference
    | .compound tag args _ => do
      let tagValue ← registry.reduce bindings limit (depth + 1) tag
      let values ← registry.reduceAll bindings limit (depth + 1) args
      registry.apply tagValue values

/-- The values of nodes that stand at a depth, from left to right. -/
def Registry.reduceAll (registry : Registry) (bindings : Bindings) (limit depth : Nat) :
    List Expr → Except EvalError (List Term)
  | [] => .ok []
  | expr :: rest => do
    let value ← registry.reduce bindings limit depth expr
    let values ← registry.reduceAll bindings limit depth rest
    return value :: values

end

/-- Evaluates expressions with the functions of a registry. -/
structure Evaluator where
  registry : Registry

namespace Evaluator

/-- The evaluator with the standard functions. -/
def standard : Evaluator := ⟨.standard⟩

/-- The value of an expression. -/
def evaluate (evaluator : Evaluator) (options : Options) (bindings : Bindings) (expr : Expr) :
    Except EvalError Term :=
  evaluator.registry.reduce bindings options.maxDepth 1 expr

/-- The effective boolean value of the value of an expression. -/
def condition (evaluator : Evaluator) (options : Options) (bindings : Bindings) (expr : Expr) :
    Except EvalError Bool := do
  (← evaluator.evaluate options bindings expr).condition

end Evaluator

end QueryAlgebra
