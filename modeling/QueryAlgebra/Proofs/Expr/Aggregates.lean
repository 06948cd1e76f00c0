/-
**The aggregates of an expression.**

A node is *uncovered* when no aggregate stands properly above it. The uncovered aggregates are the
outermost ones. `surface` finds the uncovered nodes by recursion on the tree: it goes below every
node that is not an aggregate (`surface_eq_uncovered`).
-/
import QueryAlgebra.Proofs.Expr.Occurrence

namespace QueryAlgebra.Expr

/-- The paths of the aggregates among some occurrences. -/
def aggregatePaths (occurrences : List Occurrence) : List Path :=
  (occurrences.filter fun occurrence => occurrence.2.isAggregate).map Prod.fst

/-- The nodes with no aggregate properly above them, in pre-order. -/
def uncovered (expr : Expr) : List Expr :=
  (exposed (aggregatePaths expr.occurrences) expr.occurrences).map Prod.snd

mutual

/-- The nodes that a descent meets which stops at aggregates. -/
def surface : Expr → List Expr
  | .compound tag args aggregate =>
    .compound tag args aggregate :: if aggregate then [] else tag.surface ++ surfaceOf args
  | .constant term => [.constant term]
  | .var reference => [.var reference]

/-- The nodes that a descent into expressions meets which stops at aggregates. -/
def surfaceOf : List Expr → List Expr
  | [] => []
  | expr :: rest => expr.surface ++ surfaceOf rest

end

/-- The outermost aggregates, in pre-order. -/
def outermost (expr : Expr) : List Expr := expr.surface.filter isAggregate

theorem surface_aggregate {expr : Expr} (isAggregate : expr.isAggregate = true) :
    expr.surface = [expr] := by
  cases expr with
  | compound tag args aggregate =>
    cases isAggregate
    rw [surface, if_pos rfl]
  | constant term => rfl
  | var reference => rfl

theorem surface_plain {expr : Expr} (plain : expr.isAggregate = false) :
    expr.surface = expr :: surfaceOf expr.operands := by
  cases expr with
  | compound tag args aggregate =>
    cases plain
    rw [surface, if_neg Bool.false_ne_true, operands, surfaceOf]
  | constant term => rfl
  | var reference => rfl

/-! ### The surface is uncovered -/

theorem aggregatePaths_append (front back : List Occurrence) :
    aggregatePaths (front ++ back) = aggregatePaths front ++ aggregatePaths back := by
  simp only [aggregatePaths, List.filter_append, List.map_append]

theorem aggregatePaths_under (number : Nat) (occurrences : List Occurrence) :
    aggregatePaths (occurrences.map (Occurrence.under number)) =
      (aggregatePaths occurrences).map (number :: ·) := by
  simp only [aggregatePaths, List.filter_map, List.map_map]
  rfl

/-- The surface of operands is uncovered when that of each operand is. -/
theorem surfaceOf_eq {exprs : List Expr} (each : ∀ expr ∈ exprs, expr.surface = expr.uncovered)
    (number : Nat) :
    surfaceOf exprs = (exposed (aggregatePaths (occurrencesFrom number exprs))
      (occurrencesFrom number exprs)).map Prod.snd := by
  induction exprs generalizing number with
  | nil => rfl
  | cons expr rest inRest =>
    have others := inRest (fun other member => each other (.tail _ member)) (number + 1)
    have paths : aggregatePaths (occurrencesFrom number (expr :: rest)) =
        (aggregatePaths expr.occurrences).map (number :: ·) ++
          aggregatePaths (occurrencesFrom (number + 1) rest) := by
      rw [occurrencesFrom, aggregatePaths_append, aggregatePaths_under]
    have later : ∀ path ∈ aggregatePaths (occurrencesFrom (number + 1) rest),
        ∃ first tail, number < first ∧ path = first :: tail := by
      intro path member
      obtain ⟨occurrence, isAggregate, rfl⟩ := List.mem_map.mp member
      exact path_of_mem_occurrencesFrom (List.mem_filter.mp isAggregate).1
    rw [surfaceOf, each expr List.mem_cons_self, others, paths, exposed_operands expr rest later,
      List.map_append, List.map_map]
    rfl

/-- **A descent that stops at aggregates meets the uncovered nodes.** -/
theorem surface_eq_uncovered (expr : Expr) : expr.surface = expr.uncovered := by
  induction expr using operandInduction with
  | node expr inOperands =>
    unfold uncovered
    rw [occurrences_eq, exposed_root]
    cases kind : expr.isAggregate with
    | true =>
      have blocked : [] ∈ aggregatePaths (([], expr) :: occurrencesFrom 0 expr.operands) := by
        refine List.mem_map.mpr ⟨([], expr), List.mem_filter.mpr ⟨List.mem_cons_self, kind⟩, rfl⟩
      rw [surface_aggregate kind, exposed_below_root blocked]
      rfl
    | false =>
      have paths : aggregatePaths (([], expr) :: occurrencesFrom 0 expr.operands) =
          aggregatePaths (occurrencesFrom 0 expr.operands) := by
        rw [aggregatePaths, List.filter_cons_of_neg (by simp [kind])]
        rfl
      rw [surface_plain kind, surfaceOf_eq inOperands 0, paths]
      rfl

end QueryAlgebra.Expr
