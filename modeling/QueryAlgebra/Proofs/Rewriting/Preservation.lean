/-
**Rewriting preserves evaluation.**

When the answers of a replacement have under some bindings the values that the nodes had under
others, so has the rewritten expression (`meaning_replaceWith`); for variables this is the
substitution lemma (`meaning_substituted`). A limit that both expressions are within plays no part in it.
-/
import QueryAlgebra.Proofs.Evaluation.Limit
import QueryAlgebra.Proofs.Rewriting.Variables

namespace QueryAlgebra

namespace Registry

variable {registry : Registry} {bindings before : Bindings}

/-- Whether a call leaves the meaning as it was: an answer means under some bindings what the node
means under others, and so does a variable without an answer. -/
def Preserves (registry : Registry) (bindings before : Bindings) (call : Expr.Call) : Prop :=
  match call.answer with
  | some replacement => registry.meaning bindings replacement = registry.meaning before call.node
  | none => call.node.var?.isSome →
      registry.meaning bindings call.node = registry.meaning before call.node

/-- **A rewriting whose calls preserve the meaning preserves the meaning.** -/
theorem meaning_replaceWith {answer : Expr → Option Expr} {expr : Expr}
    (preserve : ∀ call ∈ expr.callsOf answer, registry.Preserves bindings before call) :
    registry.meaning bindings (expr.replaceWith answer) = registry.meaning before expr := by
  induction expr using Expr.operandInduction with
  | node expr inOperands =>
    cases offered : answer expr with
    | some replacement =>
      rw [Expr.callsOf_answered offered, List.forall_mem_singleton] at preserve
      rw [Expr.replaceWith_answered offered]
      exact preserve
    | none =>
      rw [Expr.callsOf_unanswered offered, List.forall_mem_cons] at preserve
      obtain ⟨kept, inside⟩ := preserve
      rw [Expr.replaceWith_unanswered offered, Expr.replaceAllWith_eq_map]
      refine meaning_withOperands kept fun operand isOperand => inOperands operand isOperand ?_
      exact fun call member => inside call (Expr.mem_callsOfAll.mpr ⟨operand, isOperand, member⟩)

/-- **The substitution lemma.** Where the expressions of a substitution mean what the variables
meant, a substituted expression means what the expression meant. -/
theorem meaning_substituted {subst : Variable → Expr}
    (same : ∀ reference, registry.meaning bindings (subst reference) = before.value reference)
    (expr : Expr) :
    registry.meaning bindings (expr.substituted subst) = registry.meaning before expr := by
  refine meaning_replaceWith fun call member => ?_
  have answered := Expr.answer_call member
  unfold Preserves
  cases isVar : call.node.var? with
  | none =>
    rw [answered, isVar, Option.map_none]
    exact fun absurd => by cases absurd
  | some reference =>
    rw [answered, isVar, Option.map_some]
    show registry.meaning bindings (subst reference) = _
    rw [same, meaning_of_var isVar]

end Registry

/-! ### Whole expressions -/

namespace Evaluator

/-- **Rewriting preserves evaluation.** Let the answer to every visited node have under some bindings
the value, or the error, that the node has under others, and let every visited variable without an
answer have the same under both. Then the rewriting has what the expression has, under any limit that
both are within. -/
theorem evaluate_rewrite (evaluator : Evaluator) (options : Options) (bindings before : Bindings)
    (answer : Expr → Option Expr) (expr : Expr) : ∃ rewritten calls,
      expr.rewrite (.ofPure answer) () = .ok (rewritten, ()) ∧
      expr.rewrite (Expr.recorded (.ofPure answer)) ((), []) = .ok (rewritten, (), calls) ∧
      (expr.depth ≤ options.maxDepth → rewritten.depth ≤ options.maxDepth →
        (∀ call ∈ calls, ∀ replacement, answer call.node = some replacement →
          evaluator.evaluate options bindings replacement =
            evaluator.evaluate options before call.node) →
        (∀ call ∈ calls, answer call.node = none → call.node.var?.isSome →
          evaluator.evaluate options bindings call.node =
            evaluator.evaluate options before call.node) →
        evaluator.evaluate options bindings rewritten = evaluator.evaluate options before expr) := by
  refine ⟨expr.replaceWith answer, expr.callsOf answer, Expr.rewrite_ofPure answer expr,
    Expr.rewrite_recorded_ofPure answer expr, fun fits fitsAfter replaced kept => ?_⟩
  rw [evaluate_of_depth_le fitsAfter, evaluate_of_depth_le fits]
  refine Registry.meaning_replaceWith fun call member => ?_
  have nodeFits := Nat.le_trans (Expr.depth_call_le member) fits
  have answered := Expr.answer_call member
  unfold Registry.Preserves
  cases offered : call.answer with
  | some replacement =>
    have answerFits := Nat.le_trans (Expr.depth_answer_le member offered) fitsAfter
    show evaluator.registry.meaning bindings replacement = _
    rw [← evaluate_of_depth_le answerFits, ← evaluate_of_depth_le nodeFits]
    exact replaced call member replacement (answered ▸ offered)
  | none =>
    intro isVar
    rw [← evaluate_of_depth_le nodeFits, ← evaluate_of_depth_le nodeFits]
    exact kept call member (answered ▸ offered) isVar

/-- The negation of a variable with a value is the negation of the value. -/
theorem evaluate_rewrite_negation :
    standard.evaluate { maxDepth := 2 } Solution.empty.bindings
        (.call Fn.not [.constant (.ofBool true)]) =
      standard.evaluate { maxDepth := 2 } (Solution.empty.bind ⟨"x"⟩ (.ofBool true)).bindings
        (.call Fn.not [.var ⟨"x"⟩]) := by
  obtain ⟨rewritten, calls, _, recorded, preserve⟩ := evaluate_rewrite standard { maxDepth := 2 }
    Solution.empty.bindings (Solution.empty.bind ⟨"x"⟩ (.ofBool true)).bindings
    (fun node => node.var?.map fun _ => .constant (.ofBool true)) (.call Fn.not [.var ⟨"x"⟩])
  rw [Expr.rewrite_recorded_ofPure] at recorded
  cases recorded
  refine preserve ?_ ?_ ?_ ?_
  · rw [Expr.depth_eq_height]
    decide
  · rw [Expr.depth_eq_height]
    decide
  · intro call member replacement answered
    rcases member with _ | ⟨_, _ | ⟨_, _ | ⟨_, _ | ⟨_, _⟩⟩⟩⟩
    · cases answered
    · cases answered
    · cases answered
      rfl
  · intro call member unanswered isVar
    rw [Option.map_eq_none_iff] at unanswered
    rw [unanswered] at isVar
    cases isVar

end Evaluator

end QueryAlgebra
