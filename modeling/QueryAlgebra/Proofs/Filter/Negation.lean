/-
**Filters by a condition and by its negation.**

The negation of a condition takes one more level. Allowed this level it has the opposite truth value
where the condition has one, and the same error where the condition has none
(`condition_negation`). So the solutions that a filter keeps, those that the filter by the negation
keeps and those for which both fail share out the positions of a sequence (`filter_negation`).
-/
import Mathlib.Data.List.FinRange
import QueryAlgebra.Proofs.Evaluation.Limit
import QueryAlgebra.Proofs.Filter

namespace QueryAlgebra

/-- The options that allow one more level. -/
def Options.deeper (options : Options) : Options :=
  { options with maxDepth := options.maxDepth + 1 }

/-- The negation of an expression. -/
def Expr.negation (expr : Expr) : Expr := .call Fn.not [expr]

/-- Whether a registry calls the standard function for a negation. -/
def Registry.Negates (registry : Registry) : Prop :=
  registry.get (.iri Fn.not) 1 = some Logic.not

/-- **The value of a negation** is that of the function for the value of the expression, one level
deeper. -/
theorem Registry.reduce_negation {registry : Registry} (negates : registry.Negates)
    (bindings : Bindings) (limit : Nat) (expr : Expr) :
    registry.reduce bindings (limit + 1) 1 expr.negation =
      registry.reduce bindings limit 1 expr >>= fun value => Logic.not [value] := by
  have within : ¬limit + 1 < 1 := by omega
  have tagValue := @reduce_succ registry bindings limit 1 (.constant (.iri Fn.not))
  have argValue := @reduce_succ registry bindings limit 1 expr
  rw [Expr.negation, Expr.call, reduce_compound _ _ _ within, reduceAll, reduceAll, tagValue,
    argValue]
  by_cases deep : limit < 1
  · rw [reduce_of_deep _ deep, reduce_of_deep _ deep]
    rfl
  · have tagFound : registry.reduce bindings limit 1 (.constant (.iri Fn.not)) =
        .ok (.iri Fn.not) := by
      rw [reduce, if_neg deep]
      rfl
    rw [tagFound]
    cases registry.reduce bindings limit 1 expr with
    | error error => rfl
    | ok value =>
      show registry.apply (.iri Fn.not) [value] = Logic.not [value]
      have found : registry.get (.iri Fn.not) [value].length = some Logic.not := negates
      rw [apply, found]

namespace Evaluator

variable {evaluator : Evaluator} {options : Options} {expr : Expr}

/-- **A negation has the opposite truth value**, or the error of the condition. -/
theorem condition_negation (negates : evaluator.registry.Negates) (bindings : Bindings) :
    evaluator.condition options.deeper bindings expr.negation =
      (!·) <$> evaluator.condition options bindings expr := by
  unfold condition evaluate
  show evaluator.registry.reduce bindings (options.maxDepth + 1) 1 expr.negation >>= _ = _
  rw [Registry.reduce_negation negates]
  cases evaluator.registry.reduce bindings options.maxDepth 1 expr with
  | error error => rfl
  | ok value =>
    show (Logic.not [value] >>= Term.condition) = (!·) <$> value.condition
    unfold Logic.not
    show (value.condition >>= fun truth => pure (Term.ofBool !truth)) >>= Term.condition = _
    cases value.condition with
    | error error => rfl
    | ok truth => exact Term.condition_ofBool !truth

/-- A condition is true, its negation is true, or both have the same error. -/
theorem condition_cases (negates : evaluator.registry.Negates) (options : Options)
    (bindings : Bindings) (expr : Expr) :
    (evaluator.condition options bindings expr = .ok true ∧
        evaluator.condition options.deeper bindings expr.negation = .ok false) ∨
      (evaluator.condition options bindings expr = .ok false ∧
        evaluator.condition options.deeper bindings expr.negation = .ok true) ∨
      ∃ error, evaluator.condition options bindings expr = .error error ∧
        evaluator.condition options.deeper bindings expr.negation = .error error := by
  rw [condition_negation negates]
  cases evaluator.condition options bindings expr with
  | error error => exact .inr (.inr ⟨error, rfl, rfl⟩)
  | ok truth =>
    cases truth with
    | true => exact .inl ⟨rfl, rfl⟩
    | false => exact .inr (.inl ⟨rfl, rfl⟩)

/-- Whether a condition is in error for a solution. -/
def isInError (evaluator : Evaluator) (options : Options) (expr : Expr) (solution : Solution) :
    Bool :=
  match evaluator.condition options solution.bindings expr with
  | .ok _ => false
  | .error _ => true

theorem isInError_iff {solution : Solution} :
    evaluator.isInError options expr solution = true ↔
      ∃ error, evaluator.condition options solution.bindings expr = .error error := by
  unfold isInError
  cases evaluator.condition options solution.bindings expr with
  | error error => exact ⟨fun _ => ⟨error, rfl⟩, fun _ => rfl⟩
  | ok truth => exact ⟨nofun, nofun⟩

/-- Where a condition is neither true nor in error its negation is true, and nowhere else. -/
theorem satisfies_negation (negates : evaluator.registry.Negates) (solution : Solution) :
    evaluator.satisfies options.deeper expr.negation solution =
      (!evaluator.satisfies options expr solution && !evaluator.isInError options expr solution) := by
  rw [satisfies, condition_negation negates, satisfies, isInError]
  cases evaluator.condition options solution.bindings expr with
  | error error => rfl
  | ok truth => cases truth <;> rfl

theorem not_satisfies_of_isInError {solution : Solution}
    (fails : evaluator.isInError options expr solution = true) :
    evaluator.satisfies options expr solution = false := by
  obtain ⟨error, failed⟩ := isInError_iff.mp fails
  exact satisfies_of_error failed

end Evaluator

/-! ### Positions in a sequence -/

section Positions

/-- The positions of the solutions of a sequence that are as asked, in order. -/
def Solutions.positions (solutions : Solutions) (asked : Solution → Bool) :
    List (Fin solutions.length) :=
  (List.finRange solutions.length).filter fun position => asked solutions[position]

variable {solutions : Solutions}

/-- The solutions that are as asked are those at these positions. -/
theorem Solutions.map_positions (asked : Solution → Bool) :
    (solutions.positions asked).map solutions.get = solutions.filter asked := by
  conv => rhs; rw [← List.map_get_finRange solutions]
  rw [List.filter_map]
  rfl

/-- What is asked, what is left over and the rest share out the positions. -/
theorem Solutions.positions_perm {asked left : Solution → Bool}
    (apart : ∀ solution, left solution = true → asked solution = false) :
    (solutions.positions asked ++
        solutions.positions (fun solution => !asked solution && !left solution) ++
        solutions.positions left).Perm (List.finRange solutions.length) := by
  have isRest (solution : Solution) :
      (!left solution && !asked solution) = (!asked solution && !left solution) :=
    Bool.and_comm _ _
  have isLeft (solution : Solution) : (!!left solution && !asked solution) = left solution := by
    cases there : left solution with
    | false => rfl
    | true =>
      rw [apart solution there]
      rfl
  have whole := List.filter_append_perm (fun position => asked solutions[position])
    (List.finRange solutions.length)
  have others := List.filter_append_perm (fun position => !left solutions[position])
    ((List.finRange solutions.length).filter fun position => !asked solutions[position])
  rw [List.filter_filter, List.filter_filter] at others
  simp only [isRest, isLeft] at others
  rw [List.append_assoc]
  exact (others.append_left _).trans whole

end Positions

/-! ### Filters -/

namespace Evaluator

variable {evaluator : Evaluator} {options : Options} {expr : Expr} {solutions : Solutions}

/-- The positions of the solutions of which a condition is true. -/
def keptPositions (evaluator : Evaluator) (options : Options) (expr : Expr)
    (solutions : Solutions) : List (Fin solutions.length) :=
  solutions.positions (evaluator.satisfies options expr)

/-- The positions of the solutions for which a condition is in error. -/
def failingPositions (evaluator : Evaluator) (options : Options) (expr : Expr)
    (solutions : Solutions) : List (Fin solutions.length) :=
  solutions.positions (evaluator.isInError options expr)

theorem filterUnder_exclude_positions :
    evaluator.filterUnder options .exclude expr solutions =
      .ok ((evaluator.keptPositions options expr solutions).map solutions.get) := by
  rw [filterUnder_exclude, keptPositions, Solutions.map_positions]

/-- **A condition, its negation and the failures share out a sequence.** -/
theorem positions_negation_perm (negates : evaluator.registry.Negates) :
    (evaluator.keptPositions options expr solutions ++
        evaluator.keptPositions options.deeper expr.negation solutions ++
        evaluator.failingPositions options expr solutions).Perm
      (List.finRange solutions.length) := by
  have others : evaluator.satisfies options.deeper expr.negation = fun solution =>
      !evaluator.satisfies options expr solution && !evaluator.isInError options expr solution :=
    funext (satisfies_negation negates)
  rw [keptPositions, keptPositions, failingPositions, others]
  exact Solutions.positions_perm fun solution => not_satisfies_of_isInError

/-- A negation has a truth value where the condition does. -/
theorem judges_negation (negates : evaluator.registry.Negates) {solution : Solution} :
    evaluator.Judges options.deeper expr.negation solution ↔
      evaluator.Judges options expr solution := by
  unfold Judges
  rw [condition_negation negates]
  constructor
  · rintro ⟨opposite, judged⟩
    obtain ⟨truth, judged, _⟩ := map_eq_ok.mp judged
    exact ⟨truth, judged⟩
  · rintro ⟨truth, judged⟩
    exact ⟨!truth, map_eq_ok.mpr ⟨truth, judged, rfl⟩⟩

/-- A condition and its negation have the same first error. -/
theorem firstError_negation (negates : evaluator.registry.Negates) {error : EvalError} :
    evaluator.FirstError options.deeper expr.negation solutions error ↔
      evaluator.FirstError options expr solutions error := by
  simp only [FirstError, judges_negation negates, condition_negation negates, map_eq_error]

/-- **Negation partitions a filter.** With one more level for the negation, a solution satisfies
either the condition or its negation, or both fail for it with the same error. So where failures are
dropped, the positions kept by the two filters and those of the failures are all positions, each of
them once; and where failures are not dropped, both filters fail with the same error or neither does. -/
theorem filter_negation (evaluator : Evaluator) (options : Options) (expr : Expr)
    (solutions : Solutions)
    (negates : evaluator.registry.get (.iri Fn.not) 1 = some Logic.not) :
    (∀ solution : Solution,
      (evaluator.condition options solution.bindings expr = .ok true ∧
          evaluator.condition options.deeper solution.bindings expr.negation = .ok false) ∨
        (evaluator.condition options solution.bindings expr = .ok false ∧
          evaluator.condition options.deeper solution.bindings expr.negation = .ok true) ∨
        ∃ error, evaluator.condition options solution.bindings expr = .error error ∧
          evaluator.condition options.deeper solution.bindings expr.negation = .error error) ∧
    evaluator.filterUnder options .exclude expr solutions =
      .ok ((evaluator.keptPositions options expr solutions).map solutions.get) ∧
    evaluator.filterUnder options.deeper .exclude expr.negation solutions =
      .ok ((evaluator.keptPositions options.deeper expr.negation solutions).map solutions.get) ∧
    (evaluator.keptPositions options expr solutions ++
        evaluator.keptPositions options.deeper expr.negation solutions ++
        evaluator.failingPositions options expr solutions).Perm
      (List.finRange solutions.length) ∧
    (evaluator.keptPositions options expr solutions).Disjoint
      (evaluator.keptPositions options.deeper expr.negation solutions) ∧
    (evaluator.keptPositions options expr solutions).length +
        (evaluator.keptPositions options.deeper expr.negation solutions).length +
        (evaluator.failingPositions options expr solutions).length = solutions.length ∧
    ∀ error, evaluator.filterUnder options .propagate expr solutions = .error error ↔
      evaluator.filterUnder options.deeper .propagate expr.negation solutions = .error error := by
  have shared := @positions_negation_perm evaluator options expr solutions negates
  refine ⟨fun solution => condition_cases negates options solution.bindings expr,
    filterUnder_exclude_positions, filterUnder_exclude_positions, shared, ?_, ?_, fun error => ?_⟩
  · have distinct := shared.nodup_iff.mpr (List.nodup_finRange solutions.length)
    exact List.disjoint_of_nodup_append (List.nodup_append.mp distinct).1
  · have count := shared.length_eq
    rwa [List.length_append, List.length_append, List.length_finRange] at count
  · rw [filterUnder_propagate_eq_error_iff, filterUnder_propagate_eq_error_iff,
      firstError_negation negates]

/-- Of a true, a false and a missing value the condition keeps one and its negation one, and both
filters fail for want of the third. -/
theorem filter_negation_mixed :
    (standard.keptPositions { maxDepth := 1 } (.var ⟨"a"⟩)
          [Solution.empty.bind ⟨"a"⟩ (.ofBool true), Solution.empty.bind ⟨"a"⟩ (.ofBool false),
            .empty] = [0] ∧
      standard.keptPositions { maxDepth := 2 } (.call Fn.not [.var ⟨"a"⟩])
          [Solution.empty.bind ⟨"a"⟩ (.ofBool true), Solution.empty.bind ⟨"a"⟩ (.ofBool false),
            .empty] = [1]) ∧
    standard.filterUnder { maxDepth := 2 } .propagate (.call Fn.not [.var ⟨"a"⟩])
        [Solution.empty.bind ⟨"a"⟩ (.ofBool true), Solution.empty.bind ⟨"a"⟩ (.ofBool false),
          .empty] = .error (.unboundVariable "a" false) := by
  have negates : standard.registry.get (.iri Fn.not) 1 = some Logic.not := rfl
  obtain ⟨_, _, _, _, _, _, errors⟩ := filter_negation standard { maxDepth := 1 } (.var ⟨"a"⟩)
    [Solution.empty.bind ⟨"a"⟩ (.ofBool true), Solution.empty.bind ⟨"a"⟩ (.ofBool false), .empty]
    negates
  exact ⟨⟨by rfl, by rfl⟩, (errors (.unboundVariable "a" false)).mp rfl⟩

end Evaluator

end QueryAlgebra
