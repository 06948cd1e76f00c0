/-
**The two policies of filters.**

A filter that drops the solutions for which its condition fails is the plain filter by the condition
(`filterBy_exclude`). One that fails instead succeeds where the condition has a truth value for every
solution, with the same result (`filterBy_eq_ok_iff`), and otherwise has the error of the first
solution without one (`filterBy_eq_error_iff`).
-/
import QueryAlgebra.Filter
import QueryAlgebra.Proofs.Sequence

namespace QueryAlgebra.Evaluator

variable {evaluator : Evaluator} {options : Options} {expr : Expr}

/-- Whether a condition is true of a solution, neither false nor in error. -/
def satisfies (evaluator : Evaluator) (options : Options) (expr : Expr) (solution : Solution) :
    Bool :=
  match evaluator.condition options solution.bindings expr with
  | .ok truth => truth
  | .error _ => false

theorem satisfies_of_ok {solution : Solution} {truth : Bool}
    (judged : evaluator.condition options solution.bindings expr = .ok truth) :
    evaluator.satisfies options expr solution = truth := by
  rw [satisfies, judged]

theorem satisfies_of_error {solution : Solution} {error : EvalError}
    (fails : evaluator.condition options solution.bindings expr = .error error) :
    evaluator.satisfies options expr solution = false := by
  rw [satisfies, fails]

/-- Whether a condition has a truth value for a solution. -/
def Judges (evaluator : Evaluator) (options : Options) (expr : Expr) (solution : Solution) : Prop :=
  ∃ truth, evaluator.condition options solution.bindings expr = .ok truth

/-- Whether an error is that of the first solution for which a condition has no truth value. -/
def FirstError (evaluator : Evaluator) (options : Options) (expr : Expr) (solutions : Solutions)
    (error : EvalError) : Prop :=
  ∃ front solution back, solutions = front ++ solution :: back ∧
    (∀ earlier ∈ front, evaluator.Judges options expr earlier) ∧
    evaluator.condition options solution.bindings expr = .error error

theorem firstError_cons_of_error {solution : Solution} {rest : Solutions} {error other : EvalError}
    (fails : evaluator.condition options solution.bindings expr = .error error) :
    evaluator.FirstError options expr (solution :: rest) other ↔ other = error := by
  constructor
  · rintro ⟨front, failing, back, split, judged, failure⟩
    cases front with
    | nil =>
      cases split
      rw [fails] at failure
      cases failure
      rfl
    | cons first others =>
      cases split
      obtain ⟨truth, isTruth⟩ := judged solution List.mem_cons_self
      rw [fails] at isTruth
      cases isTruth
  · rintro rfl
    exact ⟨[], solution, rest, rfl, List.forall_mem_nil _, fails⟩

theorem firstError_cons_of_judges {solution : Solution} {rest : Solutions} {error : EvalError}
    (judged : evaluator.Judges options expr solution) :
    evaluator.FirstError options expr (solution :: rest) error ↔
      evaluator.FirstError options expr rest error := by
  constructor
  · rintro ⟨front, failing, back, split, earlier, failure⟩
    cases front with
    | nil =>
      cases split
      obtain ⟨truth, isTruth⟩ := judged
      rw [failure] at isTruth
      cases isTruth
    | cons first others =>
      cases split
      exact ⟨others, failing, back, rfl, fun other member => earlier other (.tail _ member), failure⟩
  · rintro ⟨front, failing, back, rfl, earlier, failure⟩
    refine ⟨solution :: front, failing, back, rfl, ?_, failure⟩
    exact List.forall_mem_cons.mpr ⟨judged, earlier⟩

/-! ### Dropping what fails -/

/-- **A filter that drops what fails never fails**, and keeps the solutions of which its condition
is true. -/
theorem filterBy_exclude (excludes : options.filterErrors = .exclude) (solutions : Solutions) :
    evaluator.filterBy options expr solutions =
      .ok (solutions.filter (evaluator.satisfies options expr)) := by
  induction solutions with
  | nil => rfl
  | cons solution rest inRest =>
    rw [filterBy, excludes]
    cases judged : evaluator.condition options solution.bindings expr with
    | error error =>
      rw [List.filter_cons_of_neg (by simp [satisfies_of_error judged])]
      exact inRest
    | ok truth =>
      cases truth with
      | false =>
        rw [List.filter_cons_of_neg (by simp [satisfies_of_ok judged])]
        exact inRest
      | true =>
        rw [List.filter_cons_of_pos (satisfies_of_ok judged)]
        simp only [inRest]
        rfl

/-! ### Failing with the first failure -/

/-- A filter that fails judges the first solution before the others. -/
theorem filterBy_propagate_cons (propagates : options.filterErrors = .propagate)
    (solution : Solution) (rest : Solutions) :
    evaluator.filterBy options expr (solution :: rest) = (do
      let truth ← evaluator.condition options solution.bindings expr
      let kept ← evaluator.filterBy options expr rest
      return if truth then solution :: kept else kept) := by
  rw [filterBy, propagates]
  cases evaluator.condition options solution.bindings expr with
  | error error => rfl
  | ok truth =>
    cases truth with
    | true => rfl
    | false => exact (bind_pure _).symm

/-- **A filter that fails succeeds where every solution is judged**, and then keeps what the other
one keeps. -/
theorem filterBy_eq_ok_iff (propagates : options.filterErrors = .propagate)
    {solutions kept : Solutions} :
    evaluator.filterBy options expr solutions = .ok kept ↔
      (∀ solution ∈ solutions, evaluator.Judges options expr solution) ∧
        kept = solutions.filter (evaluator.satisfies options expr) := by
  induction solutions generalizing kept with
  | nil =>
    rw [filterBy]
    simp [eq_comm]
  | cons solution rest inRest =>
    rw [filterBy_propagate_cons propagates, List.forall_mem_cons, List.filter_cons]
    constructor
    · intro succeeds
      obtain ⟨truth, judged, succeeds⟩ := bind_eq_ok.mp succeeds
      obtain ⟨others, keptOthers, same⟩ := bind_eq_ok.mp succeeds
      obtain ⟨restJudged, rfl⟩ := inRest.mp keptOthers
      cases same
      exact ⟨⟨⟨truth, judged⟩, restJudged⟩, by rw [satisfies_of_ok judged]⟩
    · rintro ⟨⟨⟨truth, judged⟩, restJudged⟩, rfl⟩
      refine bind_eq_ok.mpr ⟨truth, judged, bind_eq_ok.mpr ⟨_, inRest.mpr ⟨restJudged, rfl⟩, ?_⟩⟩
      rw [satisfies_of_ok judged]
      rfl

/-- **A filter that fails has the error of the first failing solution.** -/
theorem filterBy_eq_error_iff (propagates : options.filterErrors = .propagate)
    {solutions : Solutions} {error : EvalError} :
    evaluator.filterBy options expr solutions = .error error ↔
      evaluator.FirstError options expr solutions error := by
  induction solutions with
  | nil =>
    rw [filterBy]
    constructor
    · exact fun same => by cases same
    · rintro ⟨front, solution, back, split, _⟩
      simp at split
  | cons solution rest inRest =>
    rw [filterBy_propagate_cons propagates]
    cases judged : evaluator.condition options solution.bindings expr with
    | error failure =>
      rw [firstError_cons_of_error judged]
      exact ⟨fun same => by cases same; rfl, fun same => by rw [same]; rfl⟩
    | ok truth =>
      rw [firstError_cons_of_judges ⟨truth, judged⟩, ← inRest]
      show (evaluator.filterBy options expr rest >>= _) = _ ↔ _
      constructor
      · intro fails
        rcases bind_eq_error.mp fails with fails | ⟨kept, _, fails⟩
        · exact fails
        · cases fails
      · exact fun fails => bind_eq_error.mpr (.inl fails)

/-- A filter that fails goes through one part of a sequence after the other. -/
theorem filterBy_propagate_append (propagates : options.filterErrors = .propagate)
    (front back : Solutions) :
    evaluator.filterBy options expr (front ++ back) = (do
      let keptFront ← evaluator.filterBy options expr front
      let keptBack ← evaluator.filterBy options expr back
      return keptFront ++ keptBack) := by
  induction front with
  | nil => exact (bind_pure _).symm
  | cons solution rest inRest =>
    rw [List.cons_append, filterBy_propagate_cons propagates, filterBy_propagate_cons propagates,
      inRest]
    cases evaluator.condition options solution.bindings expr with
    | error error => rfl
    | ok truth =>
      -- the back is judged only where nothing in front of it fails
      cases evaluator.filterBy options expr rest with
      | error error => rfl
      | ok keptRest =>
        cases evaluator.filterBy options expr back with
        | error error => rfl
        | ok keptBack => cases truth <;> rfl

/-! ### Both policies -/

/-- The filter by a condition, with a policy in place of that of the options. -/
def filterUnder (evaluator : Evaluator) (options : Options) (policy : FilterErrorPolicy)
    (expr : Expr) (solutions : Solutions) : Except EvalError Solutions :=
  evaluator.filter { options with filterErrors := policy } solutions (.expression expr)

theorem filterUnder_exclude (solutions : Solutions) :
    evaluator.filterUnder options .exclude expr solutions =
      .ok (solutions.filter (evaluator.satisfies options expr)) :=
  filterBy_exclude rfl solutions

theorem filterUnder_propagate_eq_error_iff {solutions : Solutions} {error : EvalError} :
    evaluator.filterUnder options .propagate expr solutions = .error error ↔
      evaluator.FirstError options expr solutions error :=
  filterBy_eq_error_iff rfl

/-- **The two policies agree.** Dropping what fails keeps exactly the solutions of which the condition
is true. Failing instead succeeds if and only if every solution has a truth value, then with the same
solutions, and else has the error of the first that has none. Both go through a sequence part by part,
and filters that drop what fails commute and are idempotent. -/
theorem filter_policies (evaluator : Evaluator) (options : Options) (expr other : Expr)
    (solutions front back : Solutions) :
    evaluator.filterUnder options .exclude expr solutions =
        .ok (solutions.filter (evaluator.satisfies options expr)) ∧
      (∀ kept, evaluator.filterUnder options .propagate expr solutions = .ok kept ↔
        (∀ solution ∈ solutions, evaluator.Judges options expr solution) ∧
          evaluator.filterUnder options .exclude expr solutions = .ok kept) ∧
      (∀ error, evaluator.filterUnder options .propagate expr solutions = .error error ↔
        evaluator.FirstError options expr solutions error) ∧
      (∀ policy, evaluator.filterUnder options policy expr (front ++ back) = (do
        let keptFront ← evaluator.filterUnder options policy expr front
        let keptBack ← evaluator.filterUnder options policy expr back
        return keptFront ++ keptBack)) ∧
      (evaluator.filterUnder options .exclude expr solutions >>=
          evaluator.filterUnder options .exclude other) =
        (evaluator.filterUnder options .exclude other solutions >>=
          evaluator.filterUnder options .exclude expr) ∧
      (evaluator.filterUnder options .exclude expr solutions >>=
          evaluator.filterUnder options .exclude expr) =
        evaluator.filterUnder options .exclude expr solutions := by
  have propagates : ({ options with filterErrors := .propagate } : Options).filterErrors =
      .propagate := rfl
  refine ⟨filterUnder_exclude solutions, fun kept => ?_, fun error => ?_, fun policy => ?_, ?_, ?_⟩
  · rw [filterUnder_exclude, Except.ok.injEq, @eq_comm _ _ kept]
    exact filterBy_eq_ok_iff propagates
  · exact filterBy_eq_error_iff propagates
  · cases policy with
    | exclude =>
      rw [filterUnder_exclude, filterUnder_exclude, filterUnder_exclude, List.filter_append]
      rfl
    | propagate => exact filterBy_propagate_append propagates front back
  · rw [filterUnder_exclude, filterUnder_exclude]
    show evaluator.filterUnder options .exclude other _ = evaluator.filterUnder options .exclude expr _
    rw [filterUnder_exclude, filterUnder_exclude, List.filter_filter, List.filter_filter]
    simp only [Bool.and_comm]
  · rw [filterUnder_exclude]
    show evaluator.filterUnder options .exclude expr _ = _
    rw [filterUnder_exclude, List.filter_filter]
    simp only [Bool.and_self]

end QueryAlgebra.Evaluator
