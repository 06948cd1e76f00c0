/-
**Traversals of an expression.**

`Expr.depth` and `Expr.hasVar` keep nodes that are still to be visited. A *round* takes one of them,
whichever it is, and makes its operands pending one level below. It takes one node off the size of what
is pending, and what the pending nodes still have to say, with what the node taken says, stays the same
(`Rounds.size_eq`, `Rounds.deepestLevel_eq`, `Rounds.hasVar_iff`). So every traversal ends, after as many
rounds as there are nodes, and its order does not matter.

A substitution is called at the variables of the expression and nowhere else, whatever it answers
(`replaceVars_listing`), and so the rewriting of variables calls it when `Expr.hasVar` finds one.
-/
import Mathlib.Logic.Basic
import QueryAlgebra.Proofs.Expr.Depth
import QueryAlgebra.Proofs.Rewriting.Variables

namespace QueryAlgebra.Expr

/-! ### Rounds -/

/-- Rounds of a traversal, with the nodes pending before them, those taken one by one and those pending
after them. -/
inductive Rounds : List (Expr × Nat) → List (Expr × Nat) → List (Expr × Nat) → Prop
  | none {pending : List (Expr × Nat)} : Rounds pending [] pending
  | take {pending others taken left : List (Expr × Nat)} {expr : Expr} {level : Nat}
      (among : pending.Perm ((expr, level) :: others))
      (after : Rounds (expr.operands.map (·, level + 1) ++ others) taken left) :
      Rounds pending ((expr, level) :: taken) left

variable {front back pending taken left : List (Expr × Nat)}

/-- The number of nodes at or below pending ones. -/
def pendingSize (pending : List (Expr × Nat)) : Nat := sizeList (pending.map Prod.fst)

theorem pendingSize_append (front back : List (Expr × Nat)) :
    pendingSize (front ++ back) = pendingSize front + pendingSize back := by
  rw [pendingSize, List.map_append, sizeList_append]
  rfl

theorem pendingSize_perm (same : front.Perm back) : pendingSize front = pendingSize back := by
  induction same with
  | nil => rfl
  | cons node _ inRest =>
    exact congrArg (node.1.size + ·) inRest
  | swap first second rest =>
    show second.1.size + (first.1.size + pendingSize rest) =
      first.1.size + (second.1.size + pendingSize rest)
    omega
  | trans _ _ inFirst inSecond => exact inFirst.trans inSecond

theorem deepestLevel_perm (same : front.Perm back) : deepestLevel front = deepestLevel back := by
  induction same with
  | nil => rfl
  | cons node _ inRest => rw [deepestLevel, deepestLevel, inRest]
  | swap first second rest =>
    simp only [deepestLevel]
    omega
  | trans _ _ inFirst inSecond => exact inFirst.trans inSecond

/-- A node and its operands are all that is at or below it. -/
theorem size_eq_pendingSize (expr : Expr) (level : Nat) :
    expr.size = 1 + pendingSize (expr.operands.map (·, level + 1)) := by
  have same : (expr.operands.map (·, level + 1)).map Prod.fst = expr.operands := by
    rw [List.map_map]
    exact List.map_id _
  rw [pendingSize, same]
  cases expr with
  | compound tag args aggregate =>
    simp only [size, operands, sizeList]
    omega
  | constant term => rfl
  | var reference => rfl

/-- A traversal can always go on until nothing is pending. -/
theorem exists_rounds (pending : List (Expr × Nat)) : ∃ taken, Rounds pending taken [] := by
  -- The loop of `deepest` is one such traversal, which takes the first node that is pending.
  fun_induction deepest 0 pending with
  | case1 => exact ⟨[], .none⟩
  | case2 greatest expr level rest inRest =>
    obtain ⟨taken, rounds⟩ := inRest
    exact ⟨(expr, level) :: taken, .take (.refl _) rounds⟩

namespace Rounds

/-- **Every round takes a node** off those at or below pending ones. -/
theorem size_eq (rounds : Rounds pending taken left) :
    pendingSize pending = taken.length + pendingSize left := by
  induction rounds with
  | none => exact (Nat.zero_add _).symm
  | @take pending others taken left expr level among after inAfter =>
    have atNode : pendingSize ((expr, level) :: others) = expr.size + pendingSize others := rfl
    rw [pendingSize_append] at inAfter
    rw [pendingSize_perm among, atNode, size_eq_pendingSize expr level, List.length_cons]
    omega

/-- **Rounds lose no level**: what is deepest was taken or is at or below a pending node. -/
theorem deepestLevel_eq (rounds : Rounds pending taken left) :
    deepestLevel pending = (taken.map Prod.snd).foldr max (deepestLevel left) := by
  induction rounds with
  | none => rfl
  | @take pending others taken left expr level among after inAfter =>
    have atNode := deepestLevel_operands level expr.operands
    rw [deepestLevel_append] at inAfter
    rw [deepestLevel_perm among, deepestLevel, List.map_cons, List.foldr_cons, ← inAfter, ← atNode,
      Nat.max_assoc]

/-- **Rounds lose no variable**: it was taken or is at or below a pending node. -/
theorem hasVar_iff (rounds : Rounds pending taken left) :
    (∃ node ∈ pending, node.1.vars ≠ []) ↔
      (∃ node ∈ taken, node.1.var?.isSome) ∨ ∃ node ∈ left, node.1.vars ≠ [] := by
  induction rounds with
  | none => simp
  | @take pending others taken left expr level among after inAfter =>
    have atNode : expr.vars ≠ [] ↔
        expr.var?.isSome ∨ ∃ operand ∈ expr.operands, operand.vars ≠ [] := by
      rw [vars_eq, ne_eq, List.append_eq_nil_iff, List.flatMap_eq_nil_iff]
      cases expr.var? <;> simp
    have pendingNode : (∃ node ∈ pending, node.1.vars ≠ []) ↔
        expr.vars ≠ [] ∨ ∃ node ∈ others, node.1.vars ≠ [] := by
      simp only [among.mem_iff, List.mem_cons, exists_eq_or_imp]
    have operandNode : (∃ node ∈ expr.operands.map (·, level + 1) ++ others, node.1.vars ≠ []) ↔
        (∃ operand ∈ expr.operands, operand.vars ≠ []) ∨ ∃ node ∈ others, node.1.vars ≠ [] := by
      simp only [List.mem_append, or_and_right, exists_or, List.mem_map, exists_exists_and_eq_and]
    rw [pendingNode, atNode, or_assoc, ← operandNode, inAfter]
    simp only [List.mem_cons, exists_eq_or_imp, or_assoc]

end Rounds

/-! ### Calls of a substitution -/

section Calls

variable {σ : Type}

/-- A substitution that also lists the variables it is called for, the last one last. -/
def listing (subst : Variable → StateM σ Expr) (reference : Variable) :
    StateM (σ × List Variable) Expr := fun (state, called) =>
  let (answer, next) := subst reference state
  (answer, next, called ++ [reference])

variable {subst : Variable → StateM σ Expr}

theorem rewriteNodes_listing {exprs : List Expr}
    (each : ∀ expr ∈ exprs, ∀ state called,
      rewriteNode (onVars (listing subst)) expr (state, called) =
        ((rewriteNode (onVars subst) expr state).1, (rewriteNode (onVars subst) expr state).2,
          called ++ expr.vars)) (state : σ) (called : List Variable) :
    rewriteNodes (onVars (listing subst)) exprs (state, called) =
      ((rewriteNodes (onVars subst) exprs state).1, (rewriteNodes (onVars subst) exprs state).2,
        called ++ exprs.flatMap vars) := by
  induction exprs generalizing state called with
  | nil => exact congrArg (Prod.mk [] <| Prod.mk state ·) (List.append_nil called).symm
  | cons expr rest inRest =>
    have others := inRest (fun other member => each other (.tail _ member))
      (rewriteNode (onVars subst) expr state).2 (called ++ expr.vars)
    rw [rewriteNodes_cons, rewriteNodes_cons, each expr List.mem_cons_self]
    simp only
    rw [others, List.flatMap_cons, List.append_assoc]

/-- **A substitution is called for the variables of the expression**, whatever it answers. -/
theorem rewriteNode_listing (expr : Expr) (state : σ) (called : List Variable) :
    rewriteNode (onVars (listing subst)) expr (state, called) =
      ((rewriteNode (onVars subst) expr state).1, (rewriteNode (onVars subst) expr state).2,
        called ++ expr.vars) := by
  induction expr using operandInduction generalizing state called with
  | node expr inOperands =>
    cases kind : expr.var? with
    | some reference =>
      rw [rewriteNode_answered (onVars_of_var kind _), rewriteNode_answered (onVars_of_var kind _),
        vars_of_var kind]
      rfl
    | none =>
      rw [rewriteNode_unanswered (onVars_of_other kind _),
        rewriteNode_unanswered (onVars_of_other kind _), rewriteNodes_listing inOperands, vars_eq, kind]
      rfl

theorem replaceVars_listing (subst : Variable → StateM σ Expr) (expr : Expr) (state : σ) :
    expr.replaceVars (listing subst) (state, []) =
      .ok ((rewriteNode (onVars subst) expr state).1, (rewriteNode (onVars subst) expr state).2,
        expr.vars) := by
  rw [replaceVars, rewrite_eq_ok, rewriteNode_listing, List.nil_append]

end Calls

/-! ### What the traversals compute -/

theorem hasVar_iff_vars {expr : Expr} : expr.hasVar = true ↔ expr.vars ≠ [] := by
  rw [ne_eq, ← isConstant_iff, isConstant, Bool.not_eq_true', Bool.not_eq_false]

/-- The two forms of a variable. -/
theorem var?_isSome_iff {expr : Expr} :
    expr.var?.isSome ↔ ∃ reference, expr = .var reference ∨ expr = .constant (.var reference) := by
  cases expr with
  | constant term => cases term <;> simp [var?]
  | var reference => simp [var?]
  | compound tag args aggregate => simp [var?]

/-- **A variable is found** exactly where one occurs, in either of its forms. -/
theorem hasVar_iff {expr : Expr} :
    expr.hasVar = true ↔ ∃ occurrence ∈ expr.occurrences, ∃ reference,
      occurrence.2 = .var reference ∨ occurrence.2 = .constant (.var reference) := by
  simp only [← var?_isSome_iff]
  rw [hasVar_iff_vars, vars, ne_eq, List.filterMap_eq_nil_iff]
  simp only [Option.isSome_iff_ne_none, not_forall, exists_prop]

/-- **What the traversals compute.** The depth of a leaf is one, that of a compound one more than the
greatest of its tag and its arguments. A variable is found when one occurs somewhere, in either of its
forms, and this is when the rewriting of variables calls its substitution. In whatever order nodes are
taken, there are no more rounds than nodes, a variable is met only where one is found, and when nothing
is pending any more the depth was met and a variable if there is one. -/
theorem traversals_compute {σ : Type} (subst : Variable → StateM σ Expr) (state : σ) :
    (∀ term, (constant term).depth = 1) ∧ (∀ reference, (var reference).depth = 1) ∧
    (∀ tag args aggregate, (compound tag args aggregate).depth =
      1 + max tag.depth ((args.map depth).foldr max 0)) ∧
    ∀ expr : Expr,
      (expr.hasVar = true ↔ ∃ occurrence ∈ expr.occurrences, ∃ reference,
        occurrence.2 = .var reference ∨ occurrence.2 = .constant (.var reference)) ∧
      (∃ result final called,
        expr.replaceVars subst state = .ok (result, final) ∧
        expr.replaceVars (listing subst) (state, []) = .ok (result, final, called) ∧
        (expr.hasVar = true ↔ called ≠ [])) ∧
      (∃ taken, Rounds [(expr, 1)] taken []) ∧
      ∀ taken left, Rounds [(expr, 1)] taken left →
        taken.length ≤ expr.size ∧
        ((∃ node ∈ taken, node.1.var?.isSome) → expr.hasVar = true) ∧
        (left = [] → taken.length = expr.size ∧
          expr.depth = (taken.map Prod.snd).foldr max 0 ∧
          (expr.hasVar = true → ∃ node ∈ taken, node.1.var?.isSome)) := by
  refine ⟨fun term => depth_of_leaf rfl, fun reference => depth_of_leaf rfl,
    fun tag args aggregate => depth_eq _, fun expr =>
      ⟨hasVar_iff, ?_, exists_rounds _, ?_⟩⟩
  · exact ⟨_, _, _, rewrite_eq_ok _ _ _, replaceVars_listing subst expr state, hasVar_iff_vars⟩
  · intro taken left rounds
    have whole : pendingSize [(expr, 1)] = expr.size := Nat.add_zero _
    have count := rounds.size_eq
    have found := rounds.hasVar_iff
    have level : deepestLevel [(expr, 1)] = expr.depth := by
      rw [deepestLevel, deepestLevel, Nat.max_zero, ← height_eq, depth_eq_height]
    rw [whole] at count
    simp only [List.mem_singleton, exists_eq_left, ← hasVar_iff_vars] at found
    refine ⟨by omega, fun taken => found.mpr (.inl taken), ?_⟩
    rintro rfl
    refine ⟨count.symm, level.symm.trans rounds.deepestLevel_eq, fun hasVar => ?_⟩
    rcases found.mp hasVar with met | ⟨_, member, _⟩
    · exact met
    · cases member

/-- The operands are taken from last to first, and the tag of the last one is the deepest node. -/
theorem traversals_compute_backwards :
    let inner : Expr := .compound (.var ⟨"g"⟩) [] false
    let expr : Expr := .call Fn.not [.constant (.var ⟨"x"⟩), inner]
    let tag : Expr × Nat := (.constant (.iri Fn.not), 2)
    let arg : Expr × Nat := (.constant (.var ⟨"x"⟩), 2)
    let taken : List (Expr × Nat) := [(expr, 1), (inner, 2), (.var ⟨"g"⟩, 3), arg, tag]
    Rounds [(expr, 1)] taken [] ∧ taken.length = expr.size ∧ expr.depth = 3 ∧
      expr.hasVar = true := by
  intro inner expr tag arg taken
  have rounds : Rounds [(expr, 1)] taken [] :=
    .take (.refl _) <| .take (List.perm_append_singleton (inner, 2) [tag, arg]) <|
      .take (.refl _) <| .take (.swap arg tag []) <| .take (.refl _) .none
  obtain ⟨_, _, _, ofExpr⟩ :=
    traversals_compute (fun reference => (pure (.var reference) : StateM Unit Expr)) ()
  obtain ⟨_, _, _, ofRounds⟩ := ofExpr expr
  obtain ⟨_, found, atEnd⟩ := ofRounds taken [] rounds
  obtain ⟨count, depth, _⟩ := atEnd rfl
  exact ⟨rounds, count, depth, found ⟨(.var ⟨"g"⟩, 3), by decide, rfl⟩⟩

end QueryAlgebra.Expr
