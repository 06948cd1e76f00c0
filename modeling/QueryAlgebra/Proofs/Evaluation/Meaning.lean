/-
**Evaluation without a limit.**

`Registry.meaning` is the value of an expression of any depth by recursion on the tree. A node means
the same under other bindings, and with other operands, as soon as its operands do and, if it is a
variable, the node itself does (`meaning_withOperands`).
-/
import QueryAlgebra.Evaluation

namespace QueryAlgebra

mutual

/-- The value of an expression of any depth. -/
def Registry.meaning (registry : Registry) (bindings : Bindings) : Expr → Except EvalError Term
  | .constant term => bindings.constantValue term
  | .var reference => bindings.value reference
  | .compound tag args _ => do
    let tagValue ← registry.meaning bindings tag
    let values ← registry.meanings bindings args
    registry.apply tagValue values

/-- The values of expressions of any depth, from left to right. -/
def Registry.meanings (registry : Registry) (bindings : Bindings) :
    List Expr → Except EvalError (List Term)
  | [] => .ok []
  | expr :: rest => do
    let value ← registry.meaning bindings expr
    let values ← registry.meanings bindings rest
    return value :: values

end

namespace Registry

variable {registry : Registry} {bindings before : Bindings}

/-- The value of a leaf that is a variable. -/
theorem meaning_of_var {expr : Expr} {reference : Variable} (isVar : expr.var? = some reference) :
    registry.meaning bindings expr = bindings.value reference := by
  cases expr with
  | compound tag args aggregate => cases isVar
  | var other =>
    cases isVar
    rw [meaning]
  | constant term =>
    cases term with
    | var other =>
      cases isVar
      rw [meaning, Bindings.constantValue]
    | iri value => cases isVar
    | literal value => cases isVar
    | blank value => cases isVar

theorem meanings_map {change : Expr → Expr} {exprs : List Expr}
    (each : ∀ expr ∈ exprs,
      registry.meaning bindings (change expr) = registry.meaning before expr) :
    registry.meanings bindings (exprs.map change) = registry.meanings before exprs := by
  induction exprs with
  | nil => rfl
  | cons expr rest inRest =>
    rw [List.map_cons, meanings, meanings, each expr List.mem_cons_self,
      inRest fun other member => each other (.tail _ member)]

/-- A node with changed operands means what it meant when the operands do and, if it is a variable,
so does the node itself. -/
theorem meaning_withOperands {change : Expr → Expr} {expr : Expr}
    (kept : expr.var?.isSome → registry.meaning bindings expr = registry.meaning before expr)
    (each : ∀ operand ∈ expr.operands,
      registry.meaning bindings (change operand) = registry.meaning before operand) :
    registry.meaning bindings (expr.withOperands (expr.operands.map change)) =
      registry.meaning before expr := by
  cases expr with
  | constant term =>
    cases term with
    | var reference => exact kept rfl
    | iri value => rfl
    | literal value => rfl
    | blank value => rfl
  | var reference => exact kept rfl
  | compound tag args aggregate =>
    have sameArgs := meanings_map fun arg member => each arg (.tail _ member)
    show registry.meaning bindings (.compound (change tag) (args.map change) aggregate) = _
    rw [meaning, meaning, each tag List.mem_cons_self, sameArgs]

end Registry

end QueryAlgebra
