/-
**The rewriting with two stacks is the recursion on the tree.**

`outcome replace tasks output state` is what tasks make of an output when every visit is the
recursion `rewriteNode`. A step keeps the outcome (`perform_outcome`), so that a run of the machine
ends in the outcome of its beginning (`run_eq_outcome`). The outcome of a single visit is a single
result: the machine never lacks an operand, a tag or the root (`rewrite_eq_ok`).
-/
import QueryAlgebra.Expr.Rewriting

namespace QueryAlgebra.Expr

variable {σ : Type} {replace : Replacement σ}

/-! ### The recursion, case by case -/

section Recursion

variable {state next : σ}

/-- The answer to a node is its rewriting. -/
theorem rewriteNode_answered {expr answer : Expr}
    (answered : replace expr state = (some answer, next)) :
    rewriteNode replace expr state = (answer, next) := by
  cases expr with
  | compound tag args aggregate =>
    simp only [rewriteNode, bind, StateT.bind, answered]
    rfl
  | constant term =>
    simp only [rewriteNode, bind, StateT.bind, answered]
    rfl
  | var reference =>
    simp only [rewriteNode, bind, StateT.bind, answered]
    rfl

/-- A node without an answer is rebuilt from its rewritten operands. -/
theorem rewriteNode_unanswered {expr : Expr} (unanswered : replace expr state = (none, next)) :
    rewriteNode replace expr state =
      (expr.withOperands (rewriteNodes replace expr.operands next).1,
        (rewriteNodes replace expr.operands next).2) := by
  cases expr with
  | compound tag args aggregate =>
    simp only [rewriteNode, bind, StateT.bind, unanswered]
    rfl
  | constant term =>
    simp only [rewriteNode, bind, StateT.bind, unanswered]
    rfl
  | var reference =>
    simp only [rewriteNode, bind, StateT.bind, unanswered]
    rfl

theorem rewriteNodes_cons (expr : Expr) (rest : List Expr) :
    rewriteNodes replace (expr :: rest) state =
      let newExpr := rewriteNode replace expr state
      let newRest := rewriteNodes replace rest newExpr.2
      (newExpr.1 :: newRest.1, newRest.2) := rfl

/-- Nodes are rewritten one by one. -/
theorem length_rewriteNodes (exprs : List Expr) (state : σ) :
    (rewriteNodes replace exprs state).1.length = exprs.length := by
  induction exprs generalizing state with
  | nil => rfl
  | cons expr rest inRest =>
    rw [rewriteNodes_cons]
    exact congrArg Nat.succ (inRest _)

end Recursion

/-! ### What tasks make of an output -/

/-- What tasks make of an output, where every visit is the recursion on its tree. -/
def outcome (replace : Replacement σ) :
    List Task → List Expr → σ → Except RewriteFault (List Expr × σ)
  | [], output, state => .ok (output, state)
  | .visit expr :: rest, output, state =>
    let result := rewriteNode replace expr state
    outcome replace rest (result.1 :: output) result.2
  | .rebuild arity aggregate :: rest, output, state => do
    outcome replace rest (← rebuild arity aggregate output) state

/-- What the tasks of a machine make of its output. -/
def Machine.outcome (replace : Replacement σ) (machine : Machine σ) :
    Except RewriteFault (List Expr × σ) :=
  Expr.outcome replace machine.tasks machine.output machine.state

/-- Visits one after the other leave their results, the last one first. -/
theorem outcome_visits (exprs : List Expr) (rest : List Task) (output : List Expr) (state : σ) :
    outcome replace (exprs.map .visit ++ rest) output state =
      outcome replace rest ((rewriteNodes replace exprs state).1.reverse ++ output)
        (rewriteNodes replace exprs state).2 := by
  induction exprs generalizing output state with
  | nil => rfl
  | cons expr others inOthers =>
    rw [List.map_cons, List.cons_append, outcome, inOthers, rewriteNodes_cons]
    simp only [List.reverse_cons, List.append_assoc, List.singleton_append]

/-- The results for the operands of a compound are found where they are looked for. -/
theorem rebuild_results {results : List Expr} (tag : Expr) (args : List Expr) (aggregate : Bool)
    (output : List Expr) (count : results.length = args.length + 1) :
    rebuild args.length aggregate (results.reverse ++ output) =
      .ok (withOperands (.compound tag args aggregate) results :: output) := by
  have length : results.reverse.length = args.length + 1 := by rw [List.length_reverse, count]
  have enough : ¬(results.reverse ++ output).length < args.length + 1 := by
    rw [List.length_append, length]
    omega
  have found : takeLast (args.length + 1) (results.reverse ++ output) = .ok (results, output) := by
    rw [takeLast, if_neg enough, List.take_left' length, List.drop_left' length,
      List.reverse_reverse]
  rw [rebuild, found]
  cases results with
  | nil => cases count
  | cons newTag newArgs => rfl

/-! ### The machine -/

/-- **A step keeps the outcome**, and it fails exactly when the outcome does. -/
theorem perform_outcome (replace : Replacement σ) (task : Task) (machine : Machine σ) :
    (do (← perform replace machine task).outcome replace) =
      Machine.outcome replace { machine with tasks := task :: machine.tasks } := by
  obtain ⟨tasks, output, state⟩ := machine
  cases task with
  | visit expr =>
    simp only [Machine.outcome, outcome]
    rcases offered : replace expr state with ⟨_ | answer, next⟩
    · cases expr with
      | compound tag args aggregate =>
        rw [perform_visit_compound offered, rewriteNode_unanswered offered]
        show outcome replace ((tag :: args).map .visit ++ _) output next = _
        rw [outcome_visits, outcome, rebuild_results tag args _ _ (length_rewriteNodes _ _)]
        rfl
      | constant term =>
        rw [perform_visit_leaf rfl offered, rewriteNode_unanswered offered]
        rfl
      | var reference =>
        rw [perform_visit_leaf rfl offered, rewriteNode_unanswered offered]
        rfl
    · rw [perform_visit_answered offered, rewriteNode_answered offered]
      rfl
  | rebuild arity aggregate =>
    simp only [Machine.outcome, outcome, perform]
    cases rebuild arity aggregate output with
    | error fault => rfl
    | ok built => rfl

/-- **A run ends in the outcome of its beginning.** -/
theorem run_eq_outcome (replace : Replacement σ) (machine : Machine σ) :
    run replace machine = (do
      let (output, state) ← machine.outcome replace
      return ⟨[], output, state⟩) := by
  fun_induction run replace machine with
  | case1 output state => rfl
  | case2 task rest output state fault performed =>
    have kept := perform_outcome replace task ⟨rest, output, state⟩
    rw [performed] at kept
    rw [← kept]
    rfl
  | case3 task rest output state next performed inNext =>
    have kept := perform_outcome replace task ⟨rest, output, state⟩
    rw [performed] at kept
    rw [inNext, ← kept]
    rfl

/-- **The machine succeeds and gives what the recursion gives**, the state included. -/
theorem rewrite_eq_ok (replace : Replacement σ) (expr : Expr) (state : σ) :
    expr.rewrite replace state = .ok (rewriteNode replace expr state) := by
  rw [rewrite, run_eq_outcome]
  rfl

end QueryAlgebra.Expr
