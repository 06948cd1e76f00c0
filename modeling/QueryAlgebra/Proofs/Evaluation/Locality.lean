/-
**Evaluation depends on the variables that occur.**

Two bindings that answer alike for every variable of an expression give it the same value or the
same error (`reduce_congr`), at any depth and under any limit. So an expression without variables has
the same value everywhere. Solutions that agree are the same bindings, whatever the order in which
they were built, and no filter by an expression tells sequences of such solutions apart
(`filterBy_agrees`). A filter by a predicate may look at the order: it tells no sequences apart
exactly when the predicate is the same for solutions that agree (`filterByPredicate_agrees_iff`).
-/
import Mathlib.Data.List.Forall2
import QueryAlgebra.Filter
import QueryAlgebra.Proofs.Evaluation.Limit
import QueryAlgebra.Proofs.Rewriting.Variables
import QueryAlgebra.Proofs.Solution

namespace QueryAlgebra

/-! ### Bindings that answer alike -/

/-- Whether two bindings give the same answers for some variables. -/
def Bindings.AgreeOn (vars : List Variable) (first second : Bindings) : Prop :=
  ∀ reference ∈ vars, first.lookup reference = second.lookup reference ∧
    first.isExplicitlyUnbound reference = second.isExplicitlyUnbound reference

namespace Bindings.AgreeOn

variable {vars : List Variable} {first second : Bindings}

theorem mono {fewer : List Variable} (agree : AgreeOn vars first second) (subset : fewer ⊆ vars) :
    AgreeOn fewer first second :=
  fun reference member => agree reference (subset member)

theorem value_eq (agree : AgreeOn vars first second) {reference : Variable}
    (member : reference ∈ vars) : first.value reference = second.value reference := by
  obtain ⟨sameLookup, sameDeclaration⟩ := agree reference member
  rw [value, value, sameLookup, sameDeclaration]

theorem constantValue_eq {term : Term}
    (agree : AgreeOn (Expr.constant term).vars first second) :
    first.constantValue term = second.constantValue term := by
  cases term with
  | var reference =>
    have occurs := @Expr.mem_vars_of_var (.constant (.var reference)) reference rfl
    exact agree.value_eq occurs
  | iri value => rfl
  | literal value => rfl
  | blank value => rfl

end Bindings.AgreeOn

/-! ### Evaluation -/

/-- **A node has the same value under bindings that answer alike for its variables.** -/
theorem Registry.reduce_congr {registry : Registry} {first second : Bindings} {limit depth : Nat}
    {expr : Expr} (agree : Bindings.AgreeOn expr.vars first second) :
    registry.reduce first limit depth expr = registry.reduce second limit depth expr := by
  induction expr generalizing depth with
  | constant term => rw [reduce, reduce, agree.constantValue_eq]
  | var reference =>
    have occurs := @Expr.mem_vars_of_var (.var reference) reference rfl
    rw [reduce, reduce, agree.value_eq occurs]
  | compound tag args aggregate inTag inArgs =>
    have inside : ∀ operand ∈ tag :: args, Bindings.AgreeOn operand.vars first second :=
      fun operand member => agree.mono
        (@Expr.vars_operand_subset (.compound tag args aggregate) operand member)
    by_cases deep : limit < depth
    · rw [reduce_of_deep _ deep, reduce_of_deep _ deep]
    · have sameTag := @inTag (depth + 1) (inside tag List.mem_cons_self)
      have sameArgs : registry.reduceAll first limit (depth + 1) args =
          registry.reduceAll second limit (depth + 1) args :=
        reduceAll_congr fun arg member => inArgs arg member (inside arg (.tail _ member))
      rw [reduce_compound _ _ _ deep, reduce_compound _ _ _ deep, sameTag, sameArgs]

namespace Evaluator

variable {evaluator : Evaluator} {options : Options} {first second : Bindings} {expr : Expr}

theorem evaluate_congr (agree : Bindings.AgreeOn expr.vars first second) :
    evaluator.evaluate options first expr = evaluator.evaluate options second expr :=
  Registry.reduce_congr agree

theorem condition_congr (agree : Bindings.AgreeOn expr.vars first second) :
    evaluator.condition options first expr = evaluator.condition options second expr := by
  rw [condition, condition, evaluate_congr agree]

end Evaluator

/-! ### Sequences of solutions that agree -/

theorem Solutions.agrees_iff_forall₂ {first second : Solutions} :
    first.agrees second = true ↔
      List.Forall₂ (fun solution other => solution.agrees other = true) first second := by
  rw [agrees, Bool.and_eq_true, beq_iff_eq, List.all_eq_true, List.forall₂_iff_zip]
  exact Iff.rfl.and ⟨fun each _ _ member => each _ member, fun each _ member => each member⟩

/-- Whether two filters fail with the same error or keep solutions that agree. -/
def Solutions.SameOutcome : Except EvalError Solutions → Except EvalError Solutions → Prop
  | .ok kept, .ok others => kept.agrees others = true
  | .error error, .error other => error = other
  | _, _ => False

theorem Solutions.SameOutcome.cons {solution other : Solution}
    {first second : Except EvalError Solutions} (agree : solution.agrees other = true)
    (same : SameOutcome first second) :
    SameOutcome ((solution :: ·) <$> first) ((other :: ·) <$> second) := by
  cases first with
  | error error =>
    cases second with
    | error fault => exact same
    | ok others => exact same
  | ok kept =>
    cases second with
    | error fault => exact same
    | ok others => exact agrees_iff_forall₂.mpr (.cons agree (agrees_iff_forall₂.mp same))

/-- Whether a predicate is the same for solutions that agree. -/
def Solution.IsExtensional (holds : Solution → Bool) : Prop :=
  ∀ solution other : Solution, solution.agrees other = true → holds solution = holds other

/-- No test of a variable looks at the order. -/
theorem VariableTest.isExtensional (reference : Variable) (test : VariableTest) :
    Solution.IsExtensional fun solution => test.holds reference solution := by
  intro solution other agree
  have same := Solution.agrees_iff_find?.mp agree
  have sameValue : solution.lookup reference = other.lookup reference := by
    unfold Solution.lookup
    rw [same]
  cases test with
  | isBound => simp only [holds, Solution.isBound, sameValue]
  | isListed => simp only [holds, Solution.contains, OrderedMap.contains, same]
  | isExplicitlyUnbound => simp only [holds, Solution.isExplicitlyUnbound, same]
  | isLiteral => simp only [holds, sameValue]
  | isNowhere =>
    have sameCount : solution.map.entries.length = other.map.entries.length :=
      OrderedMap.size_eq_of_find?_eq same
    show solution.map.entries.isEmpty = other.map.entries.isEmpty
    rw [Bool.eq_iff_iff, List.isEmpty_iff_length_eq_zero, List.isEmpty_iff_length_eq_zero,
      sameCount]

namespace Evaluator

variable {evaluator : Evaluator} {options : Options}

/-- The filter by an expression keeps of sequences that agree solutions that agree. -/
theorem filterBy_agrees {expr : Expr} {first second : Solutions}
    (agree : first.agrees second = true) :
    Solutions.SameOutcome (evaluator.filterBy options expr first)
      (evaluator.filterBy options expr second) := by
  rw [Solutions.agrees_iff_forall₂] at agree
  induction agree with
  | nil => rfl
  | cons same _ inRest =>
    rw [filterBy, filterBy, ← Solution.bindings_eq_of_agrees same]
    cases evaluator.condition options _ expr with
    | error error =>
      cases options.filterErrors with
      | exclude => exact inRest
      | propagate => rfl
    | ok truth =>
      cases truth with
      | false => exact inRest
      | true => exact inRest.cons same

/-- **A filter by a predicate tells no sequences apart that agree** exactly when the predicate is
the same for solutions that agree. -/
theorem filterByPredicate_agrees_iff {holds : Solution → Bool} :
    (∀ first second : Solutions, first.agrees second = true → Solutions.SameOutcome
      (evaluator.filter options first (.predicate holds))
      (evaluator.filter options second (.predicate holds))) ↔ Solution.IsExtensional holds := by
  constructor
  · intro alike solution other agree
    have alone : Solutions.agrees [solution] [other] = true :=
      Solutions.agrees_iff_forall₂.mpr (.cons agree .nil)
    have same : Solutions.agrees ([solution].filter holds) ([other].filter holds) = true :=
      alike _ _ alone
    have count := (Solutions.agrees_iff_forall₂.mp same).length_eq
    cases kept : holds solution <;> cases others : holds other <;> simp [kept, others] at count ⊢
  · intro extensional first second agree
    refine Solutions.agrees_iff_forall₂.mpr ?_
    refine List.rel_filter (fun solution other same => ?_) (Solutions.agrees_iff_forall₂.mp agree)
    show holds solution = true ↔ holds other = true
    rw [extensional solution other same]

/-- **Evaluation depends on the variables that occur**, which are those that a substitution is asked
for. Bindings that answer alike for them give the same value and the same condition, or the same
errors; without a variable, all bindings do. Solutions that agree give the same, and no filter by an
expression tells sequences of them apart. A filter by a predicate tells none apart exactly when the
predicate is the same for solutions that agree, as the tests of a variable are. -/
theorem evaluate_local (evaluator : Evaluator) (options : Options) (expr : Expr)
    (subst : Variable → Expr) : ∃ result asked,
    expr.substitute subst = .ok (result, asked) ∧
    (∀ first second : Bindings,
      (∀ reference ∈ asked, first.lookup reference = second.lookup reference ∧
        first.isExplicitlyUnbound reference = second.isExplicitlyUnbound reference) →
      evaluator.evaluate options first expr = evaluator.evaluate options second expr ∧
        evaluator.condition options first expr = evaluator.condition options second expr) ∧
    (expr.isConstant = true → ∀ first second : Bindings,
      evaluator.evaluate options first expr = evaluator.evaluate options second expr ∧
        evaluator.condition options first expr = evaluator.condition options second expr) ∧
    (∀ solution other : Solution, solution.agrees other = true →
      evaluator.evaluate options solution.bindings expr =
          evaluator.evaluate options other.bindings expr ∧
        evaluator.condition options solution.bindings expr =
          evaluator.condition options other.bindings expr) ∧
    (∀ first second : Solutions, first.agrees second = true → Solutions.SameOutcome
      (evaluator.filter options first (.expression expr))
      (evaluator.filter options second (.expression expr))) ∧
    (∀ holds : Solution → Bool,
      (∀ first second : Solutions, first.agrees second = true → Solutions.SameOutcome
        (evaluator.filter options first (.predicate holds))
        (evaluator.filter options second (.predicate holds))) ↔
      ∀ solution other : Solution, solution.agrees other = true → holds solution = holds other) ∧
    ∀ (reference : Variable) (test : VariableTest) (solution other : Solution),
      solution.agrees other = true →
      test.holds reference solution = test.holds reference other := by
  refine ⟨_, _, Expr.substitute_eq_ok subst expr, fun first second agree => ?_,
    fun constant first second => ?_, fun solution other agree => ?_,
    fun first second => filterBy_agrees, fun holds => filterByPredicate_agrees_iff,
    VariableTest.isExtensional⟩
  · exact ⟨evaluate_congr agree, condition_congr agree⟩
  · have agree : Bindings.AgreeOn expr.vars first second := by
      rw [Expr.isConstant_iff.mp constant]
      exact List.forall_mem_nil _
    exact ⟨evaluate_congr agree, condition_congr agree⟩
  · rw [Solution.bindings_eq_of_agrees agree]
    exact ⟨rfl, rfl⟩

/-- A variable that does not occur plays no part, and neither does the order of those that do. -/
theorem evaluate_local_reordered :
    standard.evaluate {} ((Solution.empty.bind ⟨"a"⟩ (.ofBool true)).declare ⟨"b"⟩).bindings
        (.call Fn.not [.var ⟨"a"⟩]) =
      standard.evaluate {} (Solution.empty.bind ⟨"a"⟩ (.ofBool true)).bindings
        (.call Fn.not [.var ⟨"a"⟩]) ∧
    Solutions.agrees [(Solution.empty.bind ⟨"a"⟩ (.ofBool true)).declare ⟨"b"⟩]
      [(Solution.empty.declare ⟨"b"⟩).bind ⟨"a"⟩ (.ofBool true)] = true ∧
    Solutions.SameOutcome
      (standard.filter {} [(Solution.empty.bind ⟨"a"⟩ (.ofBool true)).declare ⟨"b"⟩]
        (.expression (.call Fn.not [.var ⟨"a"⟩])))
      (standard.filter {} [(Solution.empty.declare ⟨"b"⟩).bind ⟨"a"⟩ (.ofBool true)]
        (.expression (.call Fn.not [.var ⟨"a"⟩]))) := by
  obtain ⟨result, asked, asks, onAsked, _, _, onFilters, _⟩ :=
    evaluate_local standard {} (.call Fn.not [.var ⟨"a"⟩]) .var
  rw [Expr.substitute_eq_ok] at asks
  cases asks
  refine ⟨(onAsked _ _ fun reference member => ?_).1, by decide, onFilters _ _ (by decide)⟩
  have isFirst : reference = ⟨"a"⟩ := List.mem_singleton.mp member
  rw [isFirst]
  exact ⟨rfl, rfl⟩

/-- The solution that lists two variables without values. -/
def listed (first second : String) : Solution := (Solution.empty.declare ⟨first⟩).declare ⟨second⟩

/-- **A filter can look at the order of a solution.** Two solutions that agree are told apart by the
predicate that asks for the first variable. A filter that keeps both of them shows them in different
texts. -/
theorem order_is_visible :
    (listed "a" "b").agrees (listed "b" "a") = true ∧
    ¬Solutions.SameOutcome
      (standard.filter {} [listed "a" "b"]
        (.predicate fun solution => solution.vars.head? = some ⟨"a"⟩))
      (standard.filter {} [listed "b" "a"]
        (.predicate fun solution => solution.vars.head? = some ⟨"a"⟩)) ∧
    standard.filter {} [listed "a" "b", listed "b" "a"]
        (.predicate fun solution => VariableTest.isListed.holds ⟨"a"⟩ solution) =
      .ok [listed "a" "b", listed "b" "a"] ∧
    (listed "a" "b").display ≠ (listed "b" "a").display := by
  refine ⟨by decide, ?_, rfl, by decide⟩
  show ¬Solutions.agrees [listed "a" "b"] [] = true
  decide

end Evaluator

end QueryAlgebra
