/-
**Rewriting by a function.**

A replacement that keeps no state is a function from nodes to answers. Its rewriting is the function
`replaceWith` on trees (`rewrite_ofPure`), and it is called at the nodes that `callsOf` lists
(`rewrite_recorded_ofPure`). The called nodes are no deeper than the tree and the answers no deeper
than the result (`depth_call_le`, `depth_answer_le`).
-/
import QueryAlgebra.Proofs.Expr.Depth
import QueryAlgebra.Proofs.Rewriting.Visits

namespace QueryAlgebra.Expr

/-- The replacement that answers by a function. -/
def Replacement.ofPure (answer : Expr → Option Expr) : Replacement Unit := fun node =>
  pure (answer node)

mutual

/-- The expression with the nodes replaced that a function answers. -/
def replaceWith (answer : Expr → Option Expr) : Expr → Expr
  | .compound tag args aggregate =>
    (answer (.compound tag args aggregate)).getD
      (.compound (tag.replaceWith answer) (replaceAllWith answer args) aggregate)
  | .constant term => (answer (.constant term)).getD (.constant term)
  | .var reference => (answer (.var reference)).getD (.var reference)

/-- Expressions with the nodes replaced that a function answers. -/
def replaceAllWith (answer : Expr → Option Expr) : List Expr → List Expr
  | [] => []
  | expr :: rest => expr.replaceWith answer :: replaceAllWith answer rest

end

mutual

/-- The calls at the nodes of an expression that have no answered node properly above them. -/
def callsOf (answer : Expr → Option Expr) : Expr → List Call
  | .compound tag args aggregate =>
    ⟨.compound tag args aggregate, answer (.compound tag args aggregate)⟩ ::
      if (answer (.compound tag args aggregate)).isSome then []
      else tag.callsOf answer ++ callsOfAll answer args
  | .constant term => [⟨.constant term, answer (.constant term)⟩]
  | .var reference => [⟨.var reference, answer (.var reference)⟩]

/-- The calls at the nodes of expressions, from left to right. -/
def callsOfAll (answer : Expr → Option Expr) : List Expr → List Call
  | [] => []
  | expr :: rest => expr.callsOf answer ++ callsOfAll answer rest

end

section Nodes

variable {answer : Expr → Option Expr} {expr replacement : Expr}

theorem replaceWith_answered (answered : answer expr = some replacement) :
    expr.replaceWith answer = replacement := by
  cases expr <;> rw [replaceWith, answered, Option.getD_some]

theorem replaceWith_unanswered (unanswered : answer expr = none) :
    expr.replaceWith answer = expr.withOperands (replaceAllWith answer expr.operands) := by
  cases expr <;> rw [replaceWith, unanswered, Option.getD_none] <;> rfl

theorem replaceAllWith_eq_map (exprs : List Expr) :
    replaceAllWith answer exprs = exprs.map (replaceWith answer) := by
  induction exprs with
  | nil => rfl
  | cons expr rest inRest => rw [replaceAllWith, inRest, List.map_cons]

theorem callsOf_answered (answered : answer expr = some replacement) :
    expr.callsOf answer = [⟨expr, some replacement⟩] := by
  cases expr <;> simp only [callsOf, answered, Option.isSome_some, if_true]

theorem callsOf_unanswered (unanswered : answer expr = none) :
    expr.callsOf answer = ⟨expr, none⟩ :: callsOfAll answer expr.operands := by
  cases expr <;> simp only [callsOf, unanswered, Option.isSome_none] <;> rfl

theorem mem_callsOfAll {exprs : List Expr} {call : Call} :
    call ∈ callsOfAll answer exprs ↔ ∃ expr ∈ exprs, call ∈ expr.callsOf answer := by
  induction exprs with
  | nil => simp [callsOfAll]
  | cons expr rest inRest =>
    rw [callsOfAll, List.mem_append, inRest]
    simp only [List.mem_cons, exists_eq_or_imp]

end Nodes

/-! ### The rewriting -/

theorem rewriteNodes_ofPure {answer : Expr → Option Expr} {exprs : List Expr}
    (each : ∀ expr ∈ exprs, ∀ calls : List Call,
      rewriteNode (recorded (.ofPure answer)) expr ((), calls) =
        (expr.replaceWith answer, (), calls ++ expr.callsOf answer)) (calls : List Call) :
    rewriteNodes (recorded (.ofPure answer)) exprs ((), calls) =
      (replaceAllWith answer exprs, (), calls ++ callsOfAll answer exprs) := by
  induction exprs generalizing calls with
  | nil => rw [callsOfAll, List.append_nil]; rfl
  | cons expr rest inRest =>
    have others := inRest fun other member => each other (.tail _ member)
    rw [rewriteNodes_cons, each expr List.mem_cons_self, callsOfAll, ← List.append_assoc]
    simp only
    rw [others, replaceAllWith]

/-- **A rewriting by a function replaces as `replaceWith` does and calls as `callsOf` lists.** -/
theorem rewriteNode_ofPure (answer : Expr → Option Expr) (expr : Expr) (calls : List Call) :
    rewriteNode (recorded (.ofPure answer)) expr ((), calls) =
      (expr.replaceWith answer, (), calls ++ expr.callsOf answer) := by
  induction expr using operandInduction generalizing calls with
  | node expr inOperands =>
    cases offered : answer expr with
    | some replacement =>
      have answered : Replacement.ofPure answer expr () = (some replacement, ()) := by
        rw [Replacement.ofPure, offered]
        rfl
      rw [rewriteNode_answered (recorded_of_eq answered calls), replaceWith_answered offered,
        callsOf_answered offered]
    | none =>
      have unanswered : Replacement.ofPure answer expr () = (none, ()) := by
        rw [Replacement.ofPure, offered]
        rfl
      rw [rewriteNode_unanswered (recorded_of_eq unanswered calls),
        rewriteNodes_ofPure inOperands, replaceWith_unanswered offered,
        callsOf_unanswered offered, List.append_assoc]
      rfl

theorem rewrite_recorded_ofPure (answer : Expr → Option Expr) (expr : Expr) :
    expr.rewrite (recorded (.ofPure answer)) ((), []) =
      .ok (expr.replaceWith answer, (), expr.callsOf answer) := by
  rw [rewrite_eq_ok, rewriteNode_ofPure, List.nil_append]

theorem rewrite_ofPure (answer : Expr → Option Expr) (expr : Expr) :
    expr.rewrite (.ofPure answer) () = .ok (expr.replaceWith answer, ()) := by
  obtain ⟨visits, same, _⟩ := rewriteNode_recorded (.ofPure answer) expr () []
  rw [rewriteNode_ofPure] at same
  rw [rewrite_eq_ok, (Prod.mk.inj same).1]
  rfl

/-! ### Depths -/

theorem operands_withOperands {expr : Expr} {exprs : List Expr}
    (count : exprs.length = expr.operands.length) : (expr.withOperands exprs).operands = exprs := by
  cases expr with
  | compound tag args aggregate =>
    cases exprs with
    | nil => cases count
    | cons newTag newArgs => rfl
  | constant term => exact (List.length_eq_zero_iff.mp count).symm
  | var reference => exact (List.length_eq_zero_iff.mp count).symm

/-- The operands of a node without an answer become the operands of its rewriting. -/
theorem operands_replaceWith {answer : Expr → Option Expr} {expr : Expr}
    (unanswered : answer expr = none) :
    (expr.replaceWith answer).operands = expr.operands.map (replaceWith answer) := by
  rw [replaceWith_unanswered unanswered, replaceAllWith_eq_map]
  exact operands_withOperands (List.length_map _)

/-- A called node is no deeper than the tree. -/
theorem depth_call_le {answer : Expr → Option Expr} {expr : Expr} {call : Call}
    (member : call ∈ expr.callsOf answer) : call.node.depth ≤ expr.depth := by
  induction expr using operandInduction with
  | node expr inOperands =>
    cases offered : answer expr with
    | some replacement =>
      rw [callsOf_answered offered, List.mem_singleton] at member
      have root : call.node = expr := by rw [member]
      exact Nat.le_of_eq (congrArg depth root)
    | none =>
      rw [callsOf_unanswered offered, List.mem_cons, mem_callsOfAll] at member
      rcases member with rfl | ⟨operand, isOperand, member⟩
      · exact Nat.le_refl _
      · have inside := inOperands operand isOperand member
        have below := depth_operand_lt isOperand
        omega

/-- An answer is no deeper than the rewriting. -/
theorem depth_answer_le {answer : Expr → Option Expr} {expr replacement : Expr} {call : Call}
    (member : call ∈ expr.callsOf answer) (answered : call.answer = some replacement) :
    replacement.depth ≤ (expr.replaceWith answer).depth := by
  induction expr using operandInduction with
  | node expr inOperands =>
    cases offered : answer expr with
    | some other =>
      rw [callsOf_answered offered, List.mem_singleton] at member
      rw [member] at answered
      cases answered
      exact Nat.le_of_eq (congrArg depth (replaceWith_answered offered).symm)
    | none =>
      rw [callsOf_unanswered offered, List.mem_cons, mem_callsOfAll] at member
      rcases member with rfl | ⟨operand, isOperand, member⟩
      · cases answered
      · have inside := inOperands operand isOperand member
        have isNewOperand : operand.replaceWith answer ∈ (expr.replaceWith answer).operands := by
          rw [operands_replaceWith offered]
          exact List.mem_map_of_mem isOperand
        have below := depth_operand_lt isNewOperand
        omega

/-- The answer of a call is the answer of the function to the called node. -/
theorem answer_call {answer : Expr → Option Expr} {expr : Expr} {call : Call}
    (member : call ∈ expr.callsOf answer) : call.answer = answer call.node := by
  induction expr using operandInduction with
  | node expr inOperands =>
    cases offered : answer expr with
    | some other =>
      rw [callsOf_answered offered, List.mem_singleton] at member
      rw [member, offered]
    | none =>
      rw [callsOf_unanswered offered, List.mem_cons, mem_callsOfAll] at member
      rcases member with rfl | ⟨operand, isOperand, member⟩
      · exact offered.symm
      · exact inOperands operand isOperand member

end QueryAlgebra.Expr
