/-
**Substitution for variables.**

A substitution without a state replaces the leaves that are variables, in either of their two forms,
and keeps everything else (`substituted`). The rewriting of variables computes it
(`replaceVars_eq_ok`), it asks the substitution for the variables of the expression in pre-order
(`substitute_eq_ok`), and it never makes a tree less deep (`depth_le_substituted`).
-/
import QueryAlgebra.Expr.Substitution
import QueryAlgebra.Proofs.Expr.Variables
import QueryAlgebra.Proofs.Rewriting.Pure

namespace QueryAlgebra.Expr

/-- The expression with the expressions of a substitution in place of its variables. -/
def substituted (subst : Variable → Expr) (expr : Expr) : Expr :=
  expr.replaceWith fun node => node.var?.map subst

variable {subst : Variable → Expr}

theorem substituted_var {expr : Expr} {reference : Variable} (isVar : expr.var? = some reference) :
    expr.substituted subst = subst reference :=
  replaceWith_answered (by rw [isVar, Option.map_some])

theorem substituted_compound (tag : Expr) (args : List Expr) (aggregate : Bool) :
    (compound tag args aggregate).substituted subst =
      .compound (tag.substituted subst) (args.map (substituted subst)) aggregate := by
  have unanswered : (compound tag args aggregate).var?.map subst = none := rfl
  rw [substituted, replaceWith_unanswered unanswered, replaceAllWith_eq_map]
  rfl

theorem substituted_leaf {expr : Expr} (leaf : expr.operands = []) (notVar : expr.var? = none) :
    expr.substituted subst = expr := by
  have unanswered : expr.var?.map subst = none := by rw [notVar, Option.map_none]
  rw [substituted, replaceWith_unanswered unanswered, leaf, replaceAllWith]
  cases expr <;> rfl

/-- **The rewriting of variables gives the substituted expression.** -/
theorem replaceVars_eq_ok (subst : Variable → Expr) (expr : Expr) :
    expr.replaceVars (fun reference => pure (subst reference)) () =
      .ok (expr.substituted subst, ()) := by
  have pure_answers : onVars (fun reference => (pure (subst reference) : StateM Unit Expr)) =
      .ofPure fun node => node.var?.map subst := by
    funext node
    unfold onVars Replacement.ofPure
    cases isVar : node.var? with
    | none =>
      simp only [isVar]
      rfl
    | some reference =>
      simp only [isVar]
      rfl
  rw [replaceVars, pure_answers, rewrite_ofPure, substituted]

/-! ### The variables that a substitution is asked for -/

section Answers

variable {σ : Type} {ask : Variable → StateM σ Expr} {expr : Expr}

theorem onVars_of_var {reference : Variable} (isVar : expr.var? = some reference) (state : σ) :
    onVars ask expr state = (some (ask reference state).1, (ask reference state).2) := by
  unfold onVars
  rw [isVar]
  rfl

theorem onVars_of_other (notVar : expr.var? = none) (state : σ) :
    onVars ask expr state = (none, state) := by
  unfold onVars
  rw [notVar]
  rfl

end Answers

/-- The substitution that keeps the variables it is asked for, the last one first. -/
def asking (subst : Variable → Expr) (reference : Variable) : StateM (List Variable) Expr := do
  modify (reference :: ·)
  return subst reference

theorem rewriteNodes_asking {exprs : List Expr}
    (each : ∀ expr ∈ exprs, ∀ asked, rewriteNode (onVars (asking subst)) expr asked =
      (expr.substituted subst, expr.vars.reverse ++ asked)) (asked : List Variable) :
    rewriteNodes (onVars (asking subst)) exprs asked =
      (exprs.map (substituted subst), (exprs.flatMap vars).reverse ++ asked) := by
  induction exprs generalizing asked with
  | nil => rfl
  | cons expr rest inRest =>
    have others := inRest (fun other member => each other (.tail _ member))
      (expr.vars.reverse ++ asked)
    rw [rewriteNodes_cons, each expr List.mem_cons_self]
    simp only
    rw [others, List.flatMap_cons, List.reverse_append, List.append_assoc, List.map_cons]

/-- **The rewriting of variables asks for the variables of the expression**, the last one first. -/
theorem rewriteNode_asking (expr : Expr) (asked : List Variable) :
    rewriteNode (onVars (asking subst)) expr asked =
      (expr.substituted subst, expr.vars.reverse ++ asked) := by
  induction expr using operandInduction generalizing asked with
  | node expr inOperands =>
    cases kind : expr.var? with
    | some reference =>
      rw [rewriteNode_answered (onVars_of_var kind asked), substituted_var kind, vars_of_var kind]
      rfl
    | none =>
      have unanswered : expr.var?.map subst = none := by rw [kind, Option.map_none]
      have whole : expr.substituted subst =
          expr.withOperands (expr.operands.map (substituted subst)) := by
        rw [substituted, replaceWith_unanswered unanswered, replaceAllWith_eq_map]
        rfl
      rw [rewriteNode_unanswered (onVars_of_other kind asked),
        rewriteNodes_asking inOperands, whole, vars_eq, kind]
      rfl

/-- **A substitution is asked for the variables of the expression**, each as often as it stands
there and in their order. -/
theorem substitute_eq_ok (subst : Variable → Expr) (expr : Expr) :
    expr.substitute subst = .ok (expr.substituted subst, expr.vars) := by
  have rewritten : expr.replaceVars (asking subst) [] =
      .ok (expr.substituted subst, expr.vars.reverse) := by
    rw [replaceVars, rewrite_eq_ok, rewriteNode_asking, List.append_nil]
  unfold substitute
  show (expr.replaceVars (asking subst) [] >>= _) = _
  rw [rewritten]
  show Except.ok (_, expr.vars.reverse.reverse) = _
  rw [List.reverse_reverse]

/-- **A substitution makes no tree less deep.** -/
theorem depth_le_substituted (subst : Variable → Expr) (expr : Expr) :
    expr.depth ≤ (expr.substituted subst).depth := by
  have leaf_depth {leaf : Expr} (isLeaf : leaf.operands = []) : leaf.depth = 1 := by
    rw [depth_eq, isLeaf]
    rfl
  induction expr with
  | constant term =>
    rw [leaf_depth rfl]
    exact depth_pos _
  | var reference =>
    rw [leaf_depth rfl]
    exact depth_pos _
  | compound tag args aggregate inTag inArgs =>
    rw [substituted_compound, depth_eq, depth_eq (.compound (tag.substituted subst) _ _)]
    refine Nat.add_le_add_left (greatestDepth_le_iff.mpr fun operand member => ?_) 1
    have below := greatestDepth_le_iff.mp
      (Nat.le_refl (greatestDepth ((tag :: args).map (substituted subst))))
    have isBelow := below (operand.substituted subst) (List.mem_map_of_mem member)
    rcases List.mem_cons.mp member with rfl | member
    · exact Nat.le_trans inTag isBelow
    · exact Nat.le_trans (inArgs operand member) isBelow

end QueryAlgebra.Expr
