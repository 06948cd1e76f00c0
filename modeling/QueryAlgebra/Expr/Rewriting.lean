/-
**Rewriting expressions.**

A rewriting offers every node to a replacement, the node before its operands and those from left to
right. A node that gets an answer is replaced and not descended into; any other is rebuilt around
its rewritten operands. The replacement may keep a state. `Expr.rewrite` keeps the nodes to visit and
the compounds to rebuild on one stack and the results on another, so that trees of any depth are
rewritten; it says so when it finds too few results. `Expr.rewriteNode` is the recursion on the tree.
-/
import QueryAlgebra.Expr.Basic

namespace QueryAlgebra.Expr

/-- An answer to a node, or none, together with a state that the rewriting threads through. -/
abbrev Replacement (σ : Type) := Expr → StateM σ (Option Expr)

/-- What a rewriting has still to do. -/
inductive Task
  /-- Offer a node to the replacement. -/
  | visit (expr : Expr)
  /-- Build a compound of the results for its tag and its arguments. -/
  | rebuild (arity : Nat) (aggregate : Bool)

/-- What a rewriting can lack. -/
inductive RewriteFault
  /-- There are fewer results than a compound has operands. -/
  | missingOperands
  /-- A compound to rebuild has no tag. -/
  | missingTag
  /-- There is no result for the root. -/
  | missingRoot
  deriving DecidableEq, Repr

/-- A rewriting on its way. -/
structure Machine (σ : Type) where
  /-- What is to be done, the next task first. -/
  tasks : List Task
  /-- The results, the last one first. -/
  output : List Expr
  /-- The state of the replacement. -/
  state : σ

/-- A bound on the number of steps that a task and those it brings about take. -/
def Task.weight : Task → Nat
  | visit expr => 2 * expr.size
  | rebuild .. => 1

/-- A bound on the number of steps that tasks take. -/
def tasksWeight : List Task → Nat
  | [] => 0
  | task :: rest => task.weight + tasksWeight rest

/-- Puts items on a stack one after the other. -/
def pushAll {α : Type} (items stack : List α) : List α :=
  items.foldl (fun below item => item :: below) stack

/-- Takes the last results off the others, in the order in which they were given. -/
def takeLast (count : Nat) (output : List Expr) : Except RewriteFault (List Expr × List Expr) :=
  if output.length < count then .error .missingOperands
  else .ok ((output.take count).reverse, output.drop count)

/-- Replaces the results for the operands of a compound by the compound of them. -/
def rebuild (arity : Nat) (aggregate : Bool) (output : List Expr) :
    Except RewriteFault (List Expr) := do
  let (operands, below) ← takeLast (arity + 1) output
  match operands with
  | [] => .error .missingTag
  | tag :: args => return .compound tag args aggregate :: below

/-- Carries out a task; the machine holds the tasks after it. -/
def perform {σ : Type} (replace : Replacement σ) (machine : Machine σ) :
    Task → Except RewriteFault (Machine σ)
  | .visit expr =>
    match replace expr machine.state with
    | (some answer, next) =>
      .ok { machine with output := answer :: machine.output, state := next }
    | (none, next) =>
      match expr with
      | .compound tag args aggregate =>
        let below := .rebuild args.length aggregate :: machine.tasks
        .ok { machine with
          tasks := pushAll ((tag :: args).reverse.map .visit) below
          state := next }
      | leaf => .ok { machine with output := leaf :: machine.output, state := next }
  | .rebuild arity aggregate => do
    let output ← rebuild arity aggregate machine.output
    return { machine with output := output }

/-! ### What a step does -/

section Steps

variable {σ : Type} {replace : Replacement σ} {machine : Machine σ}

/-- Items put on a stack from last to first lie on it in order. -/
theorem pushAll_reverse_map {α β : Type} (wrap : α → β) (items : List α) (stack : List β) :
    pushAll (items.reverse.map wrap) stack = items.map wrap ++ stack := by
  have folded (pushed below : List β) : pushAll pushed below = pushed.reverse ++ below := by
    unfold pushAll
    induction pushed generalizing below with
    | nil => rfl
    | cons item rest inRest => simp [inRest]
  rw [folded, ← List.map_reverse, List.reverse_reverse]

/-- The answer to a node is its result. -/
theorem perform_visit_answered {expr answer : Expr} {next : σ}
    (answered : replace expr machine.state = (some answer, next)) :
    perform replace machine (.visit expr) =
      .ok { machine with output := answer :: machine.output, state := next } := by
  simp only [perform, answered]

/-- A leaf without an answer is its own result. -/
theorem perform_visit_leaf {expr : Expr} {next : σ} (leaf : expr.operands = [])
    (unanswered : replace expr machine.state = (none, next)) :
    perform replace machine (.visit expr) =
      .ok { machine with output := expr :: machine.output, state := next } := by
  cases expr with
  | compound tag args aggregate => cases leaf
  | constant term => simp only [perform, unanswered]
  | var reference => simp only [perform, unanswered]

/-- A compound without an answer is rebuilt after its operands are visited. -/
theorem perform_visit_compound {tag : Expr} {args : List Expr} {aggregate : Bool} {next : σ}
    (unanswered : replace (.compound tag args aggregate) machine.state = (none, next)) :
    perform replace machine (.visit (.compound tag args aggregate)) =
      .ok { machine with
        tasks := (tag :: args).map .visit ++ .rebuild args.length aggregate :: machine.tasks
        state := next } := by
  simp only [perform, unanswered, pushAll_reverse_map]

theorem tasksWeight_append (front back : List Task) :
    tasksWeight (front ++ back) = tasksWeight front + tasksWeight back := by
  induction front with
  | nil => simp [tasksWeight]
  | cons task rest inRest =>
    simp only [List.cons_append, tasksWeight, inRest]
    omega

theorem tasksWeight_visits (exprs : List Expr) :
    tasksWeight (exprs.map .visit) = 2 * sizeList exprs := by
  induction exprs with
  | nil => rfl
  | cons expr rest inRest =>
    simp only [List.map_cons, tasksWeight, Task.weight, inRest, sizeList]
    omega

/-- Every task that is carried out leaves less to do. -/
theorem tasksWeight_perform {next : Machine σ} {task : Task}
    (performed : perform replace machine task = .ok next) :
    tasksWeight next.tasks < task.weight + tasksWeight machine.tasks := by
  cases task with
  | visit expr =>
    have positive := size_pos expr
    rcases offered : replace expr machine.state with ⟨_ | answer, state⟩
    · cases expr with
      | compound tag args aggregate =>
        rw [perform_visit_compound offered] at performed
        cases performed
        simp only [tasksWeight_append, tasksWeight_visits, tasksWeight, Task.weight, sizeList, size]
        omega
      | constant term =>
        rw [perform_visit_leaf rfl offered] at performed
        cases performed
        simp only [Task.weight]
        omega
      | var reference =>
        rw [perform_visit_leaf rfl offered] at performed
        cases performed
        simp only [Task.weight]
        omega
    · rw [perform_visit_answered offered] at performed
      cases performed
      simp only [Task.weight]
      omega
  | rebuild arity aggregate =>
    simp only [perform] at performed
    cases rebuilt : rebuild arity aggregate machine.output with
    | error fault =>
      rw [rebuilt] at performed
      cases performed
    | ok output =>
      rw [rebuilt] at performed
      cases performed
      simp only [Task.weight]
      omega

end Steps

/-! ### The run -/

/-- Carries out the tasks until none is left. -/
def run {σ : Type} (replace : Replacement σ) : Machine σ → Except RewriteFault (Machine σ)
  | ⟨[], output, state⟩ => .ok ⟨[], output, state⟩
  | ⟨task :: rest, output, state⟩ =>
    match _ : perform replace ⟨rest, output, state⟩ task with
    | .error fault => .error fault
    | .ok next => run replace next
termination_by machine => tasksWeight machine.tasks
decreasing_by exact tasksWeight_perform ‹_›

/-- The expression with the nodes replaced that the replacement answers. -/
def rewrite {σ : Type} (replace : Replacement σ) (expr : Expr) :
    StateT σ (Except RewriteFault) Expr := fun state => do
  let finished ← run replace ⟨[.visit expr], [], state⟩
  match finished.output with
  | [] => .error .missingRoot
  | root :: _ => return (root, finished.state)

/-- Answers the variables only. -/
def onVars {σ : Type} (subst : Variable → StateM σ Expr) : Replacement σ := fun expr =>
  match expr.var? with
  | some reference => some <$> subst reference
  | none => pure none

/-- Answers the aggregates only. -/
def onAggregates {σ : Type} (subst : Expr → StateM σ Expr) : Replacement σ := fun expr =>
  if expr.isAggregate then some <$> subst expr else pure none

/-- The expression with its variables replaced. -/
def replaceVars {σ : Type} (subst : Variable → StateM σ Expr) (expr : Expr) :
    StateT σ (Except RewriteFault) Expr :=
  expr.rewrite (onVars subst)

/-- The expression with its outermost aggregates replaced. -/
def replaceAggregates {σ : Type} (subst : Expr → StateM σ Expr) (expr : Expr) :
    StateT σ (Except RewriteFault) Expr :=
  expr.rewrite (onAggregates subst)

/-! ### The recursion on the tree -/

mutual

/-- The rewriting of a node by recursion on the tree. -/
def rewriteNode {σ : Type} (replace : Replacement σ) : Expr → StateM σ Expr
  | .compound tag args aggregate => do
    match ← replace (.compound tag args aggregate) with
    | some answer => return answer
    | none =>
      let newTag ← rewriteNode replace tag
      let newArgs ← rewriteNodes replace args
      return .compound newTag newArgs aggregate
  | .constant term => do return (← replace (.constant term)).getD (.constant term)
  | .var reference => do return (← replace (.var reference)).getD (.var reference)

/-- The rewriting of nodes from left to right. -/
def rewriteNodes {σ : Type} (replace : Replacement σ) : List Expr → StateM σ (List Expr)
  | [] => return []
  | expr :: rest => do
    let newExpr ← rewriteNode replace expr
    let newRest ← rewriteNodes replace rest
    return newExpr :: newRest

end

end QueryAlgebra.Expr
