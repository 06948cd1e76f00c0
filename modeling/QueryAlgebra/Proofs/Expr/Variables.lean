/-
**The variables of an expression.**

`Expr.vars` lists the leaves that are variables, in either of their two forms, in pre-order and with
repetitions. A node has its own variable or those of its operands (`vars_eq`), and the list of
pending nodes of `Expr.hasVar` meets a variable if and only if there is one (`isConstant_iff`).
-/
import QueryAlgebra.Proofs.Expr.Occurrence

namespace QueryAlgebra.Expr

/-- The variables of an expression, in pre-order. -/
def vars (expr : Expr) : List Variable :=
  expr.occurrences.filterMap fun occurrence => occurrence.2.var?

theorem mem_vars_iff {expr : Expr} {reference : Variable} :
    reference ∈ expr.vars ↔
      ∃ occurrence ∈ expr.occurrences, occurrence.2.var? = some reference :=
  List.mem_filterMap

theorem filterMap_occurrencesFrom (number : Nat) (exprs : List Expr) :
    (occurrencesFrom number exprs).filterMap (fun occurrence => occurrence.2.var?) =
      exprs.flatMap vars := by
  induction exprs generalizing number with
  | nil => rfl
  | cons expr rest inRest =>
    have first : (expr.occurrences.map (Occurrence.under number)).filterMap
        (fun occurrence => occurrence.2.var?) = expr.vars := by
      rw [List.filterMap_map]
      rfl
    rw [occurrencesFrom, List.filterMap_append, first, inRest, List.flatMap_cons]

/-- **The variables of a node** are its own, if it is one, and those of its operands. -/
theorem vars_eq (expr : Expr) : expr.vars = expr.var?.toList ++ expr.operands.flatMap vars := by
  rw [vars, occurrences_eq, List.filterMap_cons, filterMap_occurrencesFrom]
  cases expr.var? <;> rfl

/-- A variable has no operands. -/
theorem operands_of_var {expr : Expr} {reference : Variable} (isVar : expr.var? = some reference) :
    expr.operands = [] := by
  cases expr with
  | compound tag args aggregate => cases isVar
  | constant term => rfl
  | var other => rfl

theorem vars_of_var {expr : Expr} {reference : Variable} (isVar : expr.var? = some reference) :
    expr.vars = [reference] := by
  rw [vars_eq, isVar, operands_of_var isVar]
  rfl

theorem mem_vars_of_var {expr : Expr} {reference : Variable}
    (isVar : expr.var? = some reference) : reference ∈ expr.vars := by
  rw [vars_of_var isVar]
  exact List.mem_singleton_self reference

theorem vars_operand_subset {expr operand : Expr} (member : operand ∈ expr.operands) :
    operand.vars ⊆ expr.vars := by
  intro reference occurs
  rw [vars_eq]
  exact List.mem_append_right _ (List.mem_flatMap_of_mem member occurs)

/-! ### Expressions without variables -/

/-- **The list of pending nodes meets a variable** if and only if one of them has one. -/
theorem anyVar_eq (pending : List Expr) : anyVar pending = !(pending.flatMap vars).isEmpty := by
  fun_induction anyVar pending with
  | case1 => rfl
  | case2 expr rest inRest =>
    rw [inRest, List.flatMap_append, List.flatMap_cons, vars_eq expr]
    cases expr.var? with
    | none => rw [Option.isSome_none, Bool.false_or, Option.toList_none, List.nil_append]
    | some reference => rfl

theorem isConstant_iff {expr : Expr} : expr.isConstant = true ↔ expr.vars = [] := by
  have whole : [expr].flatMap vars = expr.vars := List.flatMap_singleton vars expr
  rw [isConstant, hasVar, anyVar_eq, whole, Bool.not_not, List.isEmpty_iff]

end QueryAlgebra.Expr
