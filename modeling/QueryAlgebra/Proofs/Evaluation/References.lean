/-
**When a variable is a value.**

A standard function gives a literal, so a variable can only come out of an evaluation where it went
in: the expression is a variable itself, and the solution has a variable as its value
(`standard_value_var_iff`). Nothing keeps a document from listing such a value, and what it refers to
is not looked up (`variable_read_as_value`).
-/
import QueryAlgebra.Document.Expr
import QueryAlgebra.Document.Solution
import QueryAlgebra.Proofs.Evaluation.Typing
import QueryAlgebra.Proofs.Expr.Variables

namespace QueryAlgebra

open Document

theorem Solution.value_eq_ok_iff {solution : Solution} {reference : Variable} {value : Term} :
    solution.bindings.value reference = .ok value ↔ solution.lookup reference = some value := by
  rw [value_eq]
  cases solution.lookup reference with
  | none => exact ⟨nofun, nofun⟩
  | some term => rw [Except.ok.injEq, Option.some.injEq]

namespace Evaluator

/-- A variable has the value of its binding wherever a leaf may stand. -/
theorem evaluate_of_var {evaluator : Evaluator} {options : Options} {bindings : Bindings}
    {expr : Expr} {reference : Variable} (isVar : expr.var? = some reference)
    (positive : 0 < options.maxDepth) :
    evaluator.evaluate options bindings expr = bindings.value reference := by
  have depth := Expr.depth_of_leaf (Expr.operands_of_var isVar)
  rw [evaluate_of_depth_le (depth ▸ positive), Registry.meaning_of_var isVar]

/-- The value of a node that is no variable is no variable. -/
theorem standard_value_ne_var {options : Options} {bindings : Bindings} {expr : Expr}
    {reference : Variable} (noVar : expr.var? = none) :
    standard.evaluate options bindings expr ≠ .ok (.var reference) := by
  intro succeeds
  cases expr with
  | var other => cases noVar
  | constant term =>
    have found := meaning_of_evaluate_ok succeeds
    cases term with
    | var other => cases noVar
    | iri value => cases found
    | literal value => cases found
    | blank value => cases found
  | compound tag args aggregate =>
    obtain ⟨tagValue, values, _, _, call⟩ := evaluate_compound_eq_ok succeeds
    obtain ⟨name, function, _, member, gives⟩ := Registry.standard_apply_ok call
    obtain ⟨result, isLiteral, _⟩ := standard_hasResults member values _ gives
    cases isLiteral

/-- **A variable comes out of an evaluation only where it went in.** The value of an expression for a
solution is a variable exactly when the expression is a variable itself, within the limit, and this
variable is what the solution lists as its value. -/
theorem standard_value_var_iff (options : Options) (solution : Solution) (expr : Expr)
    (reference : Variable) :
    standard.evaluate options solution.bindings expr = .ok (.var reference) ↔
      0 < options.maxDepth ∧ ∃ source, expr.var? = some source ∧
        solution.lookup source = some (.var reference) := by
  constructor
  · intro succeeds
    have fits := Registry.fits_of_reduce_ok succeeds
    have positive : 0 < options.maxDepth := by
      have := expr.depth_pos
      omega
    refine ⟨positive, ?_⟩
    cases isVar : expr.var? with
    | none => exact absurd succeeds (standard_value_ne_var isVar)
    | some source =>
      rw [evaluate_of_var isVar positive] at succeeds
      exact ⟨source, rfl, Solution.value_eq_ok_iff.mp succeeds⟩
  · rintro ⟨positive, source, isVar, listed⟩
    rw [evaluate_of_var isVar positive]
    exact Solution.value_eq_ok_iff.mpr listed

/-- **A document may list a variable as a value**, and then it is the value of an expression that a
document holds. -/
theorem variable_read_as_value : ∃ expr solution,
    ofText Expr.ofJson "\x7b\"Variable\":\"x\"\x7d".toList = .ok expr ∧
    ofText Solution.ofJson
      "\x7b\"bindings\":\x7b\"x\":\x7b\"type\":\"Variable\",\"value\":\"y\"\x7d\x7d\x7d".toList =
        .ok solution ∧
    standard.evaluate {} solution.bindings expr = .ok (.var ⟨"y"⟩) :=
  ⟨.var ⟨"x"⟩, Solution.empty.bind ⟨"x"⟩ (.var ⟨"y"⟩), by cbv, by cbv, rfl⟩

end Evaluator

end QueryAlgebra
