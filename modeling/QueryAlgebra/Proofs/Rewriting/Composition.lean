/-
**The algebra of substitutions.**

Substituting every variable by itself changes nothing but the constants that hold variables
(`substituted_var_eq`), one substitution after the other is one substitution (`substituted_substituted`),
and two substitutions do the same exactly when they agree on the variables of the expression
(`substituted_eq_iff`). The variables of the result are those of the expressions put in, in order
(`vars_substituted`). `rewriteVars_algebra` says all this of the rewriting of variables.
-/
import QueryAlgebra.Proofs.Rewriting.Variables

namespace QueryAlgebra.Expr

/-! ### The two forms of a variable -/

mutual

/-- The expression with a variable in place of every constant that holds one. -/
def normal : Expr → Expr
  | .compound tag args aggregate => .compound tag.normal (normalAll args) aggregate
  | .constant term => ofTerm term
  | .var reference => .var reference

/-- Expressions with a variable in place of every constant that holds one. -/
def normalAll : List Expr → List Expr
  | [] => []
  | expr :: rest => expr.normal :: normalAll rest

end

/-- Whether no constant of an expression holds a variable. -/
def IsNormal (expr : Expr) : Prop :=
  ∀ occurrence ∈ expr.occurrences, ∀ reference, occurrence.2 ≠ .constant (.var reference)

theorem normalAll_eq_map (exprs : List Expr) : normalAll exprs = exprs.map normal := by
  induction exprs with
  | nil => rfl
  | cons expr rest inRest => rw [normalAll, inRest, List.map_cons]

theorem isNormal_iff {expr : Expr} :
    expr.IsNormal ↔ (∀ reference, expr ≠ .constant (.var reference)) ∧
      ∀ operand ∈ expr.operands, operand.IsNormal :=
  forall_mem_occurrences (fun node => ∀ reference, node ≠ .constant (.var reference)) expr

/-- **The normal expressions** are those that stay as they are. -/
theorem normal_eq_self_iff {expr : Expr} : expr.normal = expr ↔ expr.IsNormal := by
  induction expr with
  | constant term =>
    have atRoot : (constant term).IsNormal ↔ ∀ reference, constant term ≠ .constant (.var reference) :=
      isNormal_iff.trans (and_iff_left (List.forall_mem_nil _))
    rw [atRoot]
    cases term with
    | var reference => exact iff_of_false nofun fun free => free reference rfl
    | iri _ | literal _ | blank _ => exact iff_of_true rfl nofun
  | var reference => exact iff_of_true rfl (isNormal_iff.mpr ⟨nofun, List.forall_mem_nil _⟩)
  | compound tag args aggregate inTag inArgs =>
    have inside : args.map normal = args ↔ ∀ arg ∈ args, arg.IsNormal :=
      calc args.map normal = args ↔ args.map normal = args.map id := by rw [List.map_id]
        _ ↔ ∀ arg ∈ args, arg.normal = arg := List.map_inj_left
        _ ↔ ∀ arg ∈ args, arg.IsNormal := forall₂_congr inArgs
    rw [isNormal_iff, operands, List.forall_mem_cons, ← inTag, ← inside, normal, normalAll_eq_map]
    simp only [compound.injEq, and_true, ne_eq, reduceCtorEq, not_false_eq_true, implies_true,
      true_and]

/-! ### Laws of substitution -/

variable {first second : Variable → Expr}

/-- **Every variable in its own place** leaves the normal expression. -/
theorem substituted_var_eq (expr : Expr) : expr.substituted .var = expr.normal := by
  induction expr with
  | constant term => cases term <;> rfl
  | var reference => rfl
  | compound tag args aggregate inTag inArgs =>
    rw [substituted_compound, inTag, List.map_congr_left inArgs, normal, normalAll_eq_map]

/-- **One substitution after the other** is one substitution. -/
theorem substituted_substituted (first second : Variable → Expr) (expr : Expr) :
    (expr.substituted first).substituted second =
      expr.substituted fun reference => (first reference).substituted second := by
  induction expr with
  | constant term => cases term <;> rfl
  | var reference => rfl
  | compound tag args aggregate inTag inArgs =>
    have inside : (args.map (substituted first)).map (substituted second) =
        args.map (substituted fun reference => (first reference).substituted second) := by
      rw [List.map_map]
      exact List.map_congr_left inArgs
    rw [substituted_compound, substituted_compound, substituted_compound, inTag, inside]

/-- **Substitutions do the same** exactly when they agree on the variables of the expression. -/
theorem substituted_eq_iff {expr : Expr} :
    expr.substituted first = expr.substituted second ↔
      ∀ reference ∈ expr.vars, first reference = second reference := by
  have leaf_iff {leaf : Expr} {reference : Variable} (isVar : leaf.var? = some reference) :
      leaf.substituted first = leaf.substituted second ↔
        ∀ other ∈ leaf.vars, first other = second other := by
    rw [substituted_var isVar, substituted_var isVar, vars_of_var isVar, List.forall_mem_singleton]
  induction expr with
  | constant term =>
    cases term with
    | var reference => exact leaf_iff rfl
    | iri _ | literal _ | blank _ => exact iff_of_true rfl (List.forall_mem_nil _)
  | var reference => exact leaf_iff rfl
  | compound tag args aggregate inTag inArgs =>
    have inside : args.map (substituted first) = args.map (substituted second) ↔
        ∀ reference ∈ args.flatMap vars, first reference = second reference := by
      rw [List.map_inj_left, forall₂_congr inArgs, List.forall_mem_flatMap]
    have ofCompound : (compound tag args aggregate).vars = tag.vars ++ args.flatMap vars := vars_eq _
    rw [substituted_compound, substituted_compound, compound.injEq, ofCompound,
      List.forall_mem_append, and_iff_left rfl]
    exact and_congr inTag inside

/-- **The variables of the result** are those of the expressions put in, in order. -/
theorem vars_substituted (subst : Variable → Expr) (expr : Expr) :
    (expr.substituted subst).vars = expr.vars.flatMap fun reference => (subst reference).vars := by
  have at_leaf {leaf : Expr} {reference : Variable} (isVar : leaf.var? = some reference) :
      (leaf.substituted subst).vars = leaf.vars.flatMap fun other => (subst other).vars := by
    rw [substituted_var isVar, vars_of_var isVar, List.flatMap_singleton]
  induction expr with
  | constant term =>
    cases term with
    | var reference => exact at_leaf rfl
    | iri _ | literal _ | blank _ => rfl
  | var reference => exact at_leaf rfl
  | compound tag args aggregate inTag inArgs =>
    have inside : (args.map (substituted subst)).flatMap vars =
        (args.flatMap vars).flatMap fun reference => (subst reference).vars := by
      rw [List.flatMap_map, List.flatMap_assoc]
      exact congrArg List.flatten (List.map_congr_left inArgs)
    have ofCompound (tag : Expr) (args : List Expr) :
        (compound tag args aggregate).vars = tag.vars ++ args.flatMap vars := vars_eq _
    rw [substituted_compound, ofCompound, ofCompound, List.flatMap_append, inTag, inside]

/-- **A result without variables** comes of putting in only such expressions. -/
theorem isConstant_substituted {subst : Variable → Expr} {expr : Expr} :
    (expr.substituted subst).isConstant = true ↔
      ∀ reference ∈ expr.vars, (subst reference).isConstant = true := by
  simp only [isConstant_iff, vars_substituted, List.flatMap_eq_nil_iff]

/-! ### The rewriting of variables -/

/-- The rewriting of variables by a substitution that keeps no state. -/
def rewriteVars (subst : Variable → Expr) (expr : Expr) : Except RewriteFault Expr :=
  Prod.fst <$> expr.replaceVars (fun reference => (pure (subst reference) : StateM Unit Expr)) ()

theorem rewriteVars_eq_ok (subst : Variable → Expr) (expr : Expr) :
    expr.rewriteVars subst = .ok (expr.substituted subst) := by
  rw [rewriteVars, replaceVars_eq_ok]
  rfl

/-- **The algebra of substitutions.** The identity gives the normal expression, which is the expression
itself when it is normal. A substitution after another is the one that is put together from both.
Two of them give the same exactly when they agree on the variables of the expression. The result has
no variable exactly when none of the expressions put in has one, and it is no less deep. -/
theorem rewriteVars_algebra (first second : Variable → Expr) (expr : Expr) :
    expr.rewriteVars .var = .ok expr.normal ∧
    (expr.rewriteVars .var = .ok expr ↔ expr.IsNormal) ∧
    (∃ composed result,
      (∀ reference, (first reference).rewriteVars second = .ok (composed reference)) ∧
      expr.rewriteVars first >>= rewriteVars second = .ok result ∧
      expr.rewriteVars composed = .ok result) ∧
    (expr.rewriteVars first = expr.rewriteVars second ↔
      ∀ reference ∈ expr.vars, first reference = second reference) ∧
    ∃ result, expr.rewriteVars first = .ok result ∧
      (result.isConstant = true ↔ ∀ reference ∈ expr.vars, (first reference).isConstant = true) ∧
      expr.depth ≤ result.depth := by
  simp only [rewriteVars_eq_ok, Except.ok.injEq]
  refine ⟨substituted_var_eq expr, ?_, ?_, substituted_eq_iff, _, rfl, isConstant_substituted,
    depth_le_substituted first expr⟩
  · rw [substituted_var_eq]
    exact normal_eq_self_iff
  · refine ⟨fun reference => (first reference).substituted second, _, fun _ => rfl, ?_, rfl⟩
    rw [← substituted_substituted]
    exact rewriteVars_eq_ok second (expr.substituted first)

/-- A tag and an argument are variables in the two forms, so the identity is not without effect, and a
substitution may do anything to a variable that does not occur. -/
theorem rewriteVars_algebra_forms :
    let expr : Expr := .compound (.constant (.var ⟨"f"⟩)) [.var ⟨"x"⟩] true
    let exchange : Variable → Expr := fun reference =>
      if reference = ⟨"f"⟩ then .call Fn.not [.var ⟨"x"⟩] else .var ⟨"f"⟩
    let partly : Variable → Expr := fun reference =>
      if reference = ⟨"y"⟩ then .var ⟨"y"⟩ else exchange reference
    expr.rewriteVars .var = .ok (.compound (.var ⟨"f"⟩) [.var ⟨"x"⟩] true) ∧
      ¬expr.IsNormal ∧
      exchange ⟨"y"⟩ ≠ partly ⟨"y"⟩ ∧ expr.rewriteVars exchange = expr.rewriteVars partly := by
  intro expr exchange partly
  obtain ⟨identity, normal_iff, _, agree, _⟩ := rewriteVars_algebra exchange partly expr
  refine ⟨identity, fun normal => ?_, by decide, agree.mpr (by decide)⟩
  have same : expr.normal = expr := Except.ok.inj (identity.symm.trans (normal_iff.mpr normal))
  exact absurd same (by decide)

end QueryAlgebra.Expr
