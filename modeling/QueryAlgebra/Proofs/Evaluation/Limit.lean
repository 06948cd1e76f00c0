/-
**The depth limit of evaluation.**

A node that fits below the limit has its value without one (`reduce_of_fits`), a value is only ever
found where everything fits (`fits_of_reduce_ok`), and an answer other than the limit's own error
stands under every greater limit (`reduce_mono`). The limit is therefore exact: for a whole
expression it is the depth that decides.
-/
import QueryAlgebra.Proofs.Evaluation.Meaning
import QueryAlgebra.Proofs.Expr.Depth
import QueryAlgebra.Proofs.Function.Errors

namespace QueryAlgebra

/-- Whether no function reports the depth limit when it is called with as many arguments as it is
registered for. -/
def Registry.SparesLimit (registry : Registry) : Prop :=
  ∀ tag args function, registry.get tag args.length = some function →
    function args ≠ .error .recursionLimit

namespace Registry

variable {registry : Registry} {bindings : Bindings} {limit depth : Nat}

/-! ### Nodes that fit -/

theorem reduce_of_deep (expr : Expr) (deep : limit < depth) :
    registry.reduce bindings limit depth expr = .error .recursionLimit := by
  rw [reduce.eq_def, if_pos deep]

theorem reduce_compound (tag : Expr) (args : List Expr) (aggregate : Bool)
    (within : ¬limit < depth) :
    registry.reduce bindings limit depth (.compound tag args aggregate) = (do
      let tagValue ← registry.reduce bindings limit (depth + 1) tag
      let values ← registry.reduceAll bindings limit (depth + 1) args
      registry.apply tagValue values) := by
  rw [reduce, if_neg within]

/-- The values of nodes are the same in two evaluations as soon as the value of each node is. -/
theorem reduceAll_congr {other : Bindings} {limit' depth' : Nat} {exprs : List Expr}
    (each : ∀ expr ∈ exprs, registry.reduce bindings limit depth expr =
      registry.reduce other limit' depth' expr) :
    registry.reduceAll bindings limit depth exprs =
      registry.reduceAll other limit' depth' exprs := by
  induction exprs with
  | nil => rfl
  | cons expr rest inRest =>
    rw [reduceAll, reduceAll, each expr List.mem_cons_self,
      inRest fun other member => each other (.tail _ member)]

theorem reduceAll_of_fits {exprs : List Expr}
    (each : ∀ expr ∈ exprs, registry.reduce bindings limit depth expr =
      registry.meaning bindings expr) :
    registry.reduceAll bindings limit depth exprs = registry.meanings bindings exprs := by
  induction exprs with
  | nil => rfl
  | cons expr rest inRest =>
    rw [reduceAll, meanings, each expr List.mem_cons_self,
      inRest fun other member => each other (.tail _ member)]

theorem within_of_fits {expr : Expr} (fits : depth + expr.depth ≤ limit + 1) :
    ¬limit < depth := by
  have := expr.depth_pos
  omega

/-- **Below the limit nothing is cut off.** -/
theorem reduce_of_fits {expr : Expr} (fits : depth + expr.depth ≤ limit + 1) :
    registry.reduce bindings limit depth expr = registry.meaning bindings expr := by
  have within := within_of_fits fits
  induction expr generalizing depth with
  | constant term => rw [reduce, if_neg within, meaning]
  | var reference => rw [reduce, if_neg within, meaning]
  | compound tag args aggregate inTag inArgs =>
    have inside : ∀ operand ∈ tag :: args, depth + 1 + operand.depth ≤ limit + 1 := by
      intro operand member
      have below := @Expr.depth_operand_lt (.compound tag args aggregate) operand member
      omega
    have tagFits := inside tag List.mem_cons_self
    have argsFit : ∀ arg ∈ args, registry.reduce bindings limit (depth + 1) arg =
        registry.meaning bindings arg := by
      intro arg member
      have argFits := inside arg (.tail _ member)
      exact inArgs arg member argFits (within_of_fits argFits)
    rw [reduce_compound _ _ _ within, meaning, inTag tagFits (within_of_fits tagFits),
      reduceAll_of_fits argsFit]

/-! ### Values -/

theorem reduce_ok_of_reduceAll_ok {exprs : List Expr} {values : List Term}
    (succeeds : registry.reduceAll bindings limit depth exprs = .ok values) :
    ∀ expr ∈ exprs, ∃ value, registry.reduce bindings limit depth expr = .ok value := by
  induction exprs generalizing values with
  | nil => exact fun _ member => by cases member
  | cons first rest inRest =>
    rw [reduceAll] at succeeds
    obtain ⟨value, firstValue, succeeds⟩ := bind_eq_ok.mp succeeds
    obtain ⟨others, restValues, _⟩ := bind_eq_ok.mp succeeds
    intro expr member
    rcases List.mem_cons.mp member with rfl | member
    · exact ⟨value, firstValue⟩
    · exact inRest restValues expr member

/-- A node with a value stands within the limit, and its operands have values one level deeper. -/
theorem operands_of_reduce_ok {expr : Expr} {value : Term}
    (succeeds : registry.reduce bindings limit depth expr = .ok value) :
    depth ≤ limit ∧ ∀ operand ∈ expr.operands,
      ∃ inner, registry.reduce bindings limit (depth + 1) operand = .ok inner := by
  have within : ¬limit < depth := by
    intro deep
    rw [reduce_of_deep expr deep] at succeeds
    cases succeeds
  refine ⟨by omega, ?_⟩
  cases expr with
  | constant term => exact fun _ member => by cases member
  | var reference => exact fun _ member => by cases member
  | compound tag args aggregate =>
    rw [reduce_compound _ _ _ within] at succeeds
    obtain ⟨tagValue, tagFound, succeeds⟩ := bind_eq_ok.mp succeeds
    obtain ⟨values, argsFound, _⟩ := bind_eq_ok.mp succeeds
    intro operand member
    rcases List.mem_cons.mp member with rfl | member
    · exact ⟨tagValue, tagFound⟩
    · exact reduce_ok_of_reduceAll_ok argsFound operand member

/-- **A value is found only where everything fits.** -/
theorem fits_of_reduce_ok {expr : Expr} {value : Term}
    (succeeds : registry.reduce bindings limit depth expr = .ok value) :
    depth + expr.depth ≤ limit + 1 := by
  induction expr using Expr.operandInduction generalizing depth value with
  | node expr inOperands =>
    obtain ⟨within, operands⟩ := operands_of_reduce_ok succeeds
    have below : ∀ operand ∈ expr.operands, operand.depth ≤ limit - depth := by
      intro operand member
      obtain ⟨inner, found⟩ := operands operand member
      have := inOperands operand member found
      omega
    have := Expr.depth_le_succ_iff.mpr below
    omega

/-- A node with a value has it at every smaller depth. -/
theorem reduce_ok_of_le {shallower : Nat} {expr : Expr} {value : Term} (le : shallower ≤ depth)
    (succeeds : registry.reduce bindings limit depth expr = .ok value) :
    registry.reduce bindings limit shallower expr = .ok value := by
  have fits := fits_of_reduce_ok succeeds
  rw [reduce_of_fits (by omega), ← reduce_of_fits fits, succeeds]

/-! ### Greater limits -/

/-- A level deeper under a limit of one more, everything is as it was. -/
theorem reduce_succ (expr : Expr) :
    registry.reduce bindings (limit + 1) (depth + 1) expr =
      registry.reduce bindings limit depth expr := by
  induction expr generalizing depth with
  | constant term => simp only [reduce, Nat.add_lt_add_iff_right]
  | var reference => simp only [reduce, Nat.add_lt_add_iff_right]
  | compound tag args aggregate inTag inArgs =>
    by_cases deep : limit < depth
    · rw [reduce_of_deep _ deep, reduce_of_deep _ (Nat.succ_lt_succ deep)]
    · have sameArgs : registry.reduceAll bindings (limit + 1) (depth + 1 + 1) args =
          registry.reduceAll bindings limit (depth + 1) args :=
        reduceAll_congr fun arg member => inArgs arg member
      rw [reduce_compound _ _ _ deep, reduce_compound _ _ _ (mt Nat.lt_of_succ_lt_succ deep),
        inTag, sameArgs]

theorem reduceAll_mono {greater : Nat} {exprs : List Expr}
    (each : ∀ expr ∈ exprs,
      registry.reduce bindings limit depth expr ≠ .error .recursionLimit →
        registry.reduce bindings greater depth expr = registry.reduce bindings limit depth expr)
    (other : registry.reduceAll bindings limit depth exprs ≠ .error .recursionLimit) :
    registry.reduceAll bindings greater depth exprs =
      registry.reduceAll bindings limit depth exprs := by
  induction exprs with
  | nil => rfl
  | cons expr rest inRest =>
    rw [reduceAll] at other
    rw [reduceAll, reduceAll]
    refine bind_stable (each expr List.mem_cons_self) (fun value => ?_) other
    exact bind_stable (inRest fun expr member => each expr (.tail _ member)) fun _ _ => rfl

theorem within_of_other {expr : Expr}
    (other : registry.reduce bindings limit depth expr ≠ .error .recursionLimit) :
    ¬limit < depth :=
  fun deep => other (reduce_of_deep expr deep)

/-- **An answer other than the error of the limit stands under every greater limit.** -/
theorem reduce_mono {greater : Nat} (le : limit ≤ greater) {expr : Expr}
    (other : registry.reduce bindings limit depth expr ≠ .error .recursionLimit) :
    registry.reduce bindings greater depth expr = registry.reduce bindings limit depth expr := by
  induction expr generalizing depth with
  | constant term =>
    have within := within_of_other other
    rw [reduce, if_neg (by omega), reduce, if_neg within]
  | var reference =>
    have within := within_of_other other
    rw [reduce, if_neg (by omega), reduce, if_neg within]
  | compound tag args aggregate inTag inArgs =>
    have within := within_of_other other
    rw [reduce_compound _ _ _ within] at other
    rw [reduce_compound _ _ _ within, reduce_compound _ _ _ (by omega)]
    refine bind_stable inTag (fun tagValue => ?_) other
    exact bind_stable (reduceAll_mono fun arg member => inArgs arg member) fun _ _ => rfl

/-! ### Functions without the error of the limit -/

theorem apply_ne_limit (spares : registry.SparesLimit) (tag : Term) (args : List Term) :
    registry.apply tag args ≠ .error .recursionLimit := by
  unfold apply
  cases found : registry.get tag args.length with
  | none => exact fun same => by cases same
  | some function => exact spares tag args function found

theorem value_ne_limit (bindings : Bindings) (reference : Variable) :
    bindings.value reference ≠ .error .recursionLimit := by
  unfold Bindings.value
  split
  · exact fun same => by cases same
  · split <;> exact fun same => by cases same

theorem constantValue_ne_limit (bindings : Bindings) (term : Term) :
    bindings.constantValue term ≠ .error .recursionLimit := by
  cases term with
  | var reference => exact value_ne_limit bindings reference
  | iri value => exact fun same => by cases same
  | literal value => exact fun same => by cases same
  | blank value => exact fun same => by cases same

theorem meanings_ne_limit {exprs : List Expr}
    (each : ∀ expr ∈ exprs, registry.meaning bindings expr ≠ .error .recursionLimit) :
    registry.meanings bindings exprs ≠ .error .recursionLimit := by
  induction exprs with
  | nil => exact fun same => by cases same
  | cons expr rest inRest =>
    rw [meanings]
    refine bind_ne_error (each expr List.mem_cons_self) fun value _ => ?_
    refine bind_ne_error (inRest fun other member => each other (.tail _ member)) fun values _ => ?_
    exact fun same => by cases same

/-- Without a limit there is no error of the limit but for one that a function reports. -/
theorem meaning_ne_limit (spares : registry.SparesLimit) (expr : Expr) :
    registry.meaning bindings expr ≠ .error .recursionLimit := by
  induction expr with
  | constant term => exact constantValue_ne_limit bindings term
  | var reference => exact value_ne_limit bindings reference
  | compound tag args aggregate inTag inArgs =>
    rw [meaning]
    refine bind_ne_error inTag fun tagValue _ => ?_
    refine bind_ne_error (meanings_ne_limit inArgs) fun values _ => ?_
    exact apply_ne_limit spares tagValue values

/-- The standard functions fail on account of their arguments, never with the error of the limit. -/
theorem standard_sparesLimit : Registry.standard.SparesLimit := by
  intro tag args function found failed
  obtain ⟨name, _, member⟩ := mem_standardFunctions_of_get found
  exact standard_failsOnArguments member args .recursionLimit failed

end Registry

/-! ### Whole expressions -/

namespace Evaluator

variable {evaluator : Evaluator} {options : Options} {bindings : Bindings} {expr : Expr}

/-- An expression within the limit has the value that it has without a limit. -/
theorem evaluate_of_depth_le (fits : expr.depth ≤ options.maxDepth) :
    evaluator.evaluate options bindings expr = evaluator.registry.meaning bindings expr :=
  Registry.reduce_of_fits (by omega)

/-- A value under a limit is the value without one. -/
theorem meaning_of_evaluate_ok {value : Term}
    (answer : evaluator.evaluate options bindings expr = .ok value) :
    evaluator.registry.meaning bindings expr = .ok value := by
  have fits := Registry.fits_of_reduce_ok answer
  rw [← answer, evaluate_of_depth_le (by omega)]

/-- Expressions that have values under a limit mean these values. -/
theorem map_meaning_of_map_evaluate {exprs : List Expr} {values : List Term}
    (valued : exprs.map (evaluator.evaluate options bindings) = values.map .ok) :
    exprs.map (evaluator.registry.meaning bindings) = values.map .ok := by
  rw [← valued]
  refine List.map_congr_left fun expr member => ?_
  have isValue : evaluator.evaluate options bindings expr ∈ values.map .ok :=
    valued ▸ List.mem_map_of_mem member
  obtain ⟨value, _, answer⟩ := List.mem_map.mp isValue
  rw [← answer]
  exact meaning_of_evaluate_ok answer.symm

/-- **The limit is exact and only turns answers into errors.** An expression within it never meets
it and has the same answer under every limit that it is within; an expression beyond it has no value;
and an answer that is not the error of the limit stands under every greater one. -/
theorem evaluate_limit (evaluator : Evaluator) (spares : evaluator.registry.SparesLimit)
    (options : Options) (bindings : Bindings) (expr : Expr) :
    (expr.depth ≤ options.maxDepth →
      evaluator.evaluate options bindings expr ≠ .error .recursionLimit ∧
      ∀ others : Options, expr.depth ≤ others.maxDepth →
        evaluator.evaluate others bindings expr = evaluator.evaluate options bindings expr) ∧
    (options.maxDepth < expr.depth →
      ∃ error, evaluator.evaluate options bindings expr = .error error) ∧
    ∀ others : Options, options.maxDepth ≤ others.maxDepth →
      evaluator.evaluate options bindings expr ≠ .error .recursionLimit →
      evaluator.evaluate others bindings expr = evaluator.evaluate options bindings expr := by
  refine ⟨fun fits => ⟨?_, fun others fitsOthers => ?_⟩, fun beyond => ?_, ?_⟩
  · rw [evaluate_of_depth_le fits]
    exact Registry.meaning_ne_limit spares expr
  · rw [evaluate_of_depth_le fits, evaluate_of_depth_le fitsOthers]
  · cases answer : evaluator.evaluate options bindings expr with
    | error error => exact ⟨error, rfl⟩
    | ok value =>
      have fits := Registry.fits_of_reduce_ok answer
      omega
  · exact fun others greater other => Registry.reduce_mono greater other

/-- The negation of a truth value needs three levels: its tag and its argument take one more than
itself, and the argument is a call again. -/
theorem evaluate_limit_negation :
    (standard.evaluate { maxDepth := 3 } Solution.empty.bindings
        (.call Fn.not [.call Fn.boolean [.constant (.ofBool true)]]) ≠ .error .recursionLimit) ∧
      ∃ error, standard.evaluate { maxDepth := 2 } Solution.empty.bindings
        (.call Fn.not [.call Fn.boolean [.constant (.ofBool true)]]) = .error error := by
  have depth : (Expr.call Fn.not [.call Fn.boolean [.constant (.ofBool true)]]).depth = 3 := by
    rw [Expr.depth_eq_height]
    rfl
  have spares : standard.registry.SparesLimit := Registry.standard_sparesLimit
  constructor
  · exact ((evaluate_limit standard spares { maxDepth := 3 } _ _).1 (Nat.le_of_eq depth)).1
  · exact (evaluate_limit standard spares { maxDepth := 2 } _ _).2.1 (by rw [depth]; decide)

end Evaluator

end QueryAlgebra
