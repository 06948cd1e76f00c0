/-
**Hoisting aggregates.**

`hoisted` is the hoisting by recursion on the tree: it numbers the aggregates that it meets. `hoist`
computes it together with the outermost aggregates (`hoist_eq_ok`), and no aggregate is left
(`hoisted_noAggregates`).
-/
import QueryAlgebra.Expr.Substitution
import QueryAlgebra.Proofs.Expr.Aggregates
import QueryAlgebra.Proofs.Rewriting.Pure

namespace QueryAlgebra.Expr

mutual

/-- The expression with its outermost aggregates replaced by the expressions of the numbers from a
number on. -/
def hoisted (replacement : Nat → Expr) (number : Nat) : Expr → Expr
  | .compound tag args aggregate =>
    if aggregate then replacement number
    else .compound (tag.hoisted replacement number)
      (hoistedAll replacement (number + tag.outermost.length) args) aggregate
  | .constant term => .constant term
  | .var reference => .var reference

/-- Expressions with their outermost aggregates replaced, numbered from left to right. -/
def hoistedAll (replacement : Nat → Expr) (number : Nat) : List Expr → List Expr
  | [] => []
  | expr :: rest =>
    expr.hoisted replacement number ::
      hoistedAll replacement (number + expr.outermost.length) rest

end

section Nodes

variable {replacement : Nat → Expr} {expr : Expr}

theorem hoisted_aggregate (isAggregate : expr.isAggregate = true) (number : Nat) :
    expr.hoisted replacement number = replacement number := by
  cases expr with
  | compound tag args aggregate =>
    cases isAggregate
    rw [hoisted, if_pos rfl]
  | constant term => cases isAggregate
  | var reference => cases isAggregate

theorem hoisted_plain (plain : expr.isAggregate = false) (number : Nat) :
    expr.hoisted replacement number =
      expr.withOperands (hoistedAll replacement number expr.operands) := by
  cases expr with
  | compound tag args aggregate =>
    cases plain
    rw [hoisted, if_neg Bool.false_ne_true, operands, hoistedAll]
    rfl
  | constant term => rfl
  | var reference => rfl

theorem outermost_aggregate (isAggregate : expr.isAggregate = true) : expr.outermost = [expr] := by
  rw [outermost, surface_aggregate isAggregate, List.filter_cons_of_pos isAggregate, List.filter_nil]

theorem outermost_plain (plain : expr.isAggregate = false) :
    expr.outermost = (surfaceOf expr.operands).filter isAggregate := by
  rw [outermost, surface_plain plain, List.filter_cons_of_neg (by simp [plain])]

theorem length_hoistedAll (exprs : List Expr) (number : Nat) :
    (hoistedAll replacement number exprs).length = exprs.length := by
  induction exprs generalizing number with
  | nil => rfl
  | cons expr rest inRest => rw [hoistedAll, List.length_cons, inRest, List.length_cons]

end Nodes

/-! ### The rewriting of aggregates -/

section Rewriting

variable {replacement : Nat → Expr}

/-- An aggregate gets the number of those before it, and any other node is not answered. -/
theorem onAggregates_number (expr : Expr) (before : List Expr) :
    onAggregates (numberAggregate replacement) expr before =
      if expr.isAggregate then (some (replacement before.length), expr :: before)
      else (none, before) := by
  unfold onAggregates
  cases expr.isAggregate <;> rfl

theorem rewriteNodes_number {exprs : List Expr}
    (each : ∀ expr ∈ exprs, ∀ before,
      rewriteNode (onAggregates (numberAggregate replacement)) expr before =
        (expr.hoisted replacement before.length, expr.outermost.reverse ++ before))
    (before : List Expr) :
    rewriteNodes (onAggregates (numberAggregate replacement)) exprs before =
      (hoistedAll replacement before.length exprs,
        ((surfaceOf exprs).filter isAggregate).reverse ++ before) := by
  induction exprs generalizing before with
  | nil => rfl
  | cons expr rest inRest =>
    have others := inRest (fun other member => each other (.tail _ member))
      (expr.outermost.reverse ++ before)
    have count : (expr.outermost.reverse ++ before).length =
        before.length + expr.outermost.length := by
      rw [List.length_append, List.length_reverse, Nat.add_comm]
    rw [rewriteNodes_cons, each expr List.mem_cons_self]
    simp only
    rw [others, count, hoistedAll, surfaceOf, List.filter_append, List.reverse_append,
      List.append_assoc]
    rfl

/-- **The rewriting of aggregates hoists them**: it lists the outermost ones, the last one first. -/
theorem rewriteNode_number (expr : Expr) (before : List Expr) :
    rewriteNode (onAggregates (numberAggregate replacement)) expr before =
      (expr.hoisted replacement before.length, expr.outermost.reverse ++ before) := by
  induction expr using operandInduction generalizing before with
  | node expr inOperands =>
    have offered : onAggregates (numberAggregate replacement) expr before = _ :=
      onAggregates_number expr before
    cases kind : expr.isAggregate with
    | true =>
      rw [kind, if_pos rfl] at offered
      rw [rewriteNode_answered offered, hoisted_aggregate kind, outermost_aggregate kind]
      rfl
    | false =>
      rw [kind, if_neg Bool.false_ne_true] at offered
      rw [rewriteNode_unanswered offered, rewriteNodes_number inOperands, hoisted_plain kind,
        outermost_plain kind]

/-- **Hoisting gives the hoisted expression and its outermost aggregates.** -/
theorem hoist_eq_ok (replacement : Nat → Expr) (expr : Expr) :
    expr.hoist replacement = .ok (expr.hoisted replacement 0, expr.outermost) := by
  rw [hoist, replaceAggregates, rewrite_eq_ok, rewriteNode_number, List.append_nil]
  show Except.ok (_, expr.outermost.reverse.reverse) = _
  rw [List.reverse_reverse]
  rfl

end Rewriting

/-! ### What is left -/

theorem isAggregate_withOperands (expr : Expr) (exprs : List Expr) :
    (expr.withOperands exprs).isAggregate = expr.isAggregate := by
  cases expr with
  | compound tag args aggregate => cases exprs <;> rfl
  | constant term => rfl
  | var reference => rfl

/-- Whether no node of an expression is an aggregate. -/
def NoAggregates (expr : Expr) : Prop :=
  ∀ occurrence ∈ expr.occurrences, occurrence.2.isAggregate = false

theorem noAggregates_iff {expr : Expr} :
    expr.NoAggregates ↔
      expr.isAggregate = false ∧ ∀ operand ∈ expr.operands, operand.NoAggregates :=
  forall_mem_occurrences (fun node => node.isAggregate = false) expr

theorem hoistedAll_noAggregates {replacement : Nat → Expr} {exprs : List Expr}
    (each : ∀ expr ∈ exprs, ∀ number, (expr.hoisted replacement number).NoAggregates)
    (number : Nat) : ∀ expr ∈ hoistedAll replacement number exprs, expr.NoAggregates := by
  induction exprs generalizing number with
  | nil => exact fun _ member => by cases member
  | cons expr rest inRest =>
    rw [hoistedAll, List.forall_mem_cons]
    exact ⟨each expr List.mem_cons_self number,
      inRest (fun other member => each other (.tail _ member)) _⟩

/-- **No aggregate is left** where the replacements contain none. -/
theorem hoisted_noAggregates {replacement : Nat → Expr}
    (free : ∀ number, (replacement number).NoAggregates) (expr : Expr) (number : Nat) :
    (expr.hoisted replacement number).NoAggregates := by
  induction expr using operandInduction generalizing number with
  | node expr inOperands =>
    cases kind : expr.isAggregate with
    | true =>
      rw [hoisted_aggregate kind]
      exact free number
    | false =>
      rw [hoisted_plain kind]
      refine noAggregates_iff.mpr ⟨?_, ?_⟩
      · rw [isAggregate_withOperands, kind]
      · rw [operands_withOperands (length_hoistedAll _ _)]
        exact hoistedAll_noAggregates inOperands number

end QueryAlgebra.Expr
