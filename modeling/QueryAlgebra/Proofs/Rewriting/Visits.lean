/-
**The nodes that a rewriting visits.**

`recorded replace` answers as `replace` does and lists its calls in its state. The calls of a
rewriting are those at the nodes without a replaced node properly above them, each once and in
pre-order (`rewriteNode_recorded`), whatever the answers depend on. With the equality of the machine
and the recursion (`rewrite_eq_ok`) this is the whole behaviour of a rewriting.
-/
import QueryAlgebra.Proofs.Expr.Occurrence
import QueryAlgebra.Proofs.Rewriting.Machine

namespace QueryAlgebra.Expr

/-! ### Recorded calls -/

/-- A node that was offered to a replacement, and the answer. -/
structure Call where
  node : Expr
  answer : Option Expr

/-- A replacement that also lists its calls, the last one last. -/
def recorded {σ : Type} (replace : Replacement σ) : Replacement (σ × List Call) :=
  fun node (state, calls) =>
    let (answer, next) := replace node state
    (answer, next, calls ++ [⟨node, answer⟩])

/-- A call at a path. -/
structure Visit where
  path : Path
  call : Call

namespace Visit

/-- The visited node with its path. -/
def occurrence (visit : Visit) : Occurrence := (visit.path, visit.call.node)

/-- The visit of a node as one of an operand of a number. -/
def under (number : Nat) (visit : Visit) : Visit := ⟨number :: visit.path, visit.call⟩

/-- The paths at which a visit was answered. -/
def replaced (visits : List Visit) : List Path :=
  (visits.filter fun visit => visit.call.answer.isSome).map path

/-- Whether visits are those of all nodes with no replaced node properly above them, in pre-order. -/
def Complete (visits : List Visit) (occurrences : List Occurrence) : Prop :=
  visits.map occurrence = exposed (replaced visits) occurrences

theorem replaced_append (front back : List Visit) :
    replaced (front ++ back) = replaced front ++ replaced back := by
  simp only [replaced, List.filter_append, List.map_append]

theorem replaced_under (number : Nat) (visits : List Visit) :
    replaced (visits.map (under number)) = (replaced visits).map (number :: ·) := by
  simp only [replaced, List.filter_map, List.map_map]
  rfl

/-- The visit of an answered node is complete. -/
theorem complete_answered (expr answer : Expr) :
    Complete [⟨[], expr, some answer⟩] expr.occurrences := by
  have blocked : [] ∈ replaced [⟨[], expr, some answer⟩] := List.mem_singleton.mpr rfl
  rw [Complete, occurrences_eq, exposed_root, exposed_below_root blocked]
  rfl

/-- The visit of an unanswered node is complete with those of its operands. -/
theorem complete_unanswered (expr : Expr) {visits : List Visit}
    (operands : Complete visits (occurrencesFrom 0 expr.operands)) :
    Complete (⟨[], expr, none⟩ :: visits) expr.occurrences := by
  rw [Complete, occurrences_eq, exposed_root, List.map_cons, operands]
  rfl

/-- The visits of operands are complete when those of each operand are. -/
theorem complete_operands {number : Nat} {expr : Expr} {rest : List Expr}
    {inExpr inRest : List Visit} (first : Complete inExpr expr.occurrences)
    (others : Complete inRest (occurrencesFrom (number + 1) rest)) :
    Complete (inExpr.map (under number) ++ inRest) (occurrencesFrom number (expr :: rest)) := by
  have later : ∀ path ∈ replaced inRest, ∃ first tail, number < first ∧ path = first :: tail := by
    intro path member
    obtain ⟨visit, isReplaced, rfl⟩ := List.mem_map.mp member
    have visited : visit.occurrence ∈ inRest.map occurrence :=
      List.mem_map_of_mem (List.mem_filter.mp isReplaced).1
    rw [others] at visited
    exact path_of_mem_occurrencesFrom (List.mem_filter.mp visited).1
  rw [Complete, replaced_append, replaced_under, exposed_operands expr rest later, ← first,
    ← others, List.map_append, List.map_map, List.map_map]
  rfl

end Visit

/-! ### The visits of the recursion -/

variable {σ : Type} {replace : Replacement σ}

/-- The recursion with recorded calls does what it does without, and its visits are complete. -/
def VisitsOf (replace : Replacement σ) (expr : Expr) : Prop :=
  ∀ (state : σ) (calls : List Call), ∃ visits : List Visit,
    rewriteNode (recorded replace) expr (state, calls) =
      ((rewriteNode replace expr state).1, (rewriteNode replace expr state).2,
        calls ++ visits.map Visit.call) ∧
    Visit.Complete visits expr.occurrences

theorem recorded_of_eq {node : Expr} {answer : Option Expr} {state next : σ}
    (offered : replace node state = (answer, next)) (calls : List Call) :
    recorded replace node (state, calls) = (answer, next, calls ++ [⟨node, answer⟩]) := by
  simp only [recorded, offered]

/-- The visits of nodes from left to right. -/
theorem rewriteNodes_recorded {exprs : List Expr} (each : ∀ expr ∈ exprs, VisitsOf replace expr)
    (number : Nat) (state : σ) (calls : List Call) : ∃ visits : List Visit,
      rewriteNodes (recorded replace) exprs (state, calls) =
        ((rewriteNodes replace exprs state).1, (rewriteNodes replace exprs state).2,
          calls ++ visits.map Visit.call) ∧
      Visit.Complete visits (occurrencesFrom number exprs) := by
  induction exprs generalizing number state calls with
  | nil => exact ⟨[], by rw [List.map_nil, List.append_nil]; rfl, rfl⟩
  | cons expr rest inRest =>
    obtain ⟨inExpr, first, firstComplete⟩ := each expr List.mem_cons_self state calls
    obtain ⟨others, second, othersComplete⟩ :=
      inRest (fun other member => each other (.tail _ member)) (number + 1)
        (rewriteNode replace expr state).2 (calls ++ inExpr.map Visit.call)
    refine ⟨inExpr.map (Visit.under number) ++ others, ?_,
      Visit.complete_operands firstComplete othersComplete⟩
    have same : (inExpr.map (Visit.under number)).map Visit.call = inExpr.map Visit.call := by
      rw [List.map_map]
      rfl
    rw [rewriteNodes_cons, rewriteNodes_cons, first]
    simp only
    rw [second, List.map_append, same, List.append_assoc]

/-- **The recursion visits the nodes without a replaced node properly above them.** -/
theorem rewriteNode_recorded (replace : Replacement σ) (expr : Expr) : VisitsOf replace expr := by
  induction expr using operandInduction with
  | node expr inOperands =>
    intro state calls
    rcases offered : replace expr state with ⟨_ | answer, next⟩
    · obtain ⟨visits, same, complete⟩ :=
        rewriteNodes_recorded inOperands 0 next (calls ++ [⟨expr, none⟩])
      refine ⟨⟨[], expr, none⟩ :: visits, ?_, Visit.complete_unanswered _ complete⟩
      rw [rewriteNode_unanswered (recorded_of_eq offered calls), rewriteNode_unanswered offered,
        same, List.append_assoc]
      rfl
    · refine ⟨[⟨[], expr, some answer⟩], ?_, Visit.complete_answered _ answer⟩
      rw [rewriteNode_answered (recorded_of_eq offered calls), rewriteNode_answered offered]
      rfl

/-- Complete visits stand in pre-order, none of them at the path of another. -/
theorem Visit.Complete.sorted {visits : List Visit} {expr : Expr}
    (complete : Complete visits expr.occurrences) :
    visits.Pairwise fun first second => first.path < second.path := by
  have inOrder : (visits.map occurrence).Pairwise Occurrence.Before := by
    rw [complete]
    exact (occurrences_sorted expr).filter _
  rw [List.pairwise_map] at inOrder
  exact inOrder

/-- **A rewriting is the recursion on the tree**: the machine succeeds with the same result and the
same state, arguments are as many as before, and the replacement is called at the nodes without a
replaced node properly above them, at each once and in pre-order. -/
theorem rewrite_visits (replace : Replacement σ) (expr : Expr) (state : σ) :
    expr.rewrite replace state = .ok (rewriteNode replace expr state) ∧
    (∀ args later, (rewriteNodes replace args later).1.length = args.length) ∧
    ∃ visits : List Visit,
      expr.rewrite (recorded replace) (state, []) =
        .ok ((rewriteNode replace expr state).1, (rewriteNode replace expr state).2,
          visits.map Visit.call) ∧
      visits.map Visit.occurrence = exposed (Visit.replaced visits) expr.occurrences ∧
      visits.Pairwise fun first second => first.path < second.path := by
  refine ⟨rewrite_eq_ok replace expr state, length_rewriteNodes, ?_⟩
  obtain ⟨visits, same, complete⟩ := rewriteNode_recorded replace expr state []
  refine ⟨visits, ?_, complete, complete.sorted⟩
  rw [rewrite_eq_ok, same, List.nil_append]

end QueryAlgebra.Expr
