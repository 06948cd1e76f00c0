/-
**The first error wins.**

Evaluation comes to a node after its operands: to the tag first, then to the arguments from left to
right and then to the compound itself (`Expr.evaluationOrder`). A node *fails on its own* when it is a
variable without a value, or a compound with values for all its operands for which no function is
registered or whose function fails on them (`Evaluator.FailsAt`). The error of an evaluation within
the limit is that of the first node in this order that fails on its own, and there is a value when no
node does (`first_error_wins`).

The order is the one in which the searches for an error are put together: the first error in a
compound is the first in its operands or, for want of one, its own (`error?_meaning`).
-/
import QueryAlgebra.Proofs.Evaluation.Limit
import QueryAlgebra.Proofs.Expr.Occurrence

namespace QueryAlgebra

/-! ### The order of evaluation -/

namespace Expr

mutual

/-- The nodes with their paths, a node after its operands and those from left to right. -/
def evaluationOrder : Expr → List Occurrence
  | .compound tag args aggregate =>
    tag.evaluationOrder.map (Occurrence.under 0) ++ evaluationOrderFrom 1 args ++
      [([], .compound tag args aggregate)]
  | .constant term => [([], .constant term)]
  | .var reference => [([], .var reference)]

/-- The nodes of operands that are numbered from a number on. -/
def evaluationOrderFrom (number : Nat) : List Expr → List Occurrence
  | [] => []
  | expr :: rest =>
    expr.evaluationOrder.map (Occurrence.under number) ++ evaluationOrderFrom (number + 1) rest

end

/-- The root comes after the nodes of the operands. -/
theorem evaluationOrder_eq (expr : Expr) :
    expr.evaluationOrder = evaluationOrderFrom 0 expr.operands ++ [([], expr)] := by
  cases expr with
  | compound tag args aggregate => rw [evaluationOrder, operands, evaluationOrderFrom]
  | constant term => rfl
  | var reference => rfl

theorem evaluationOrderFrom_perm {exprs : List Expr} (number : Nat)
    (each : ∀ expr ∈ exprs, expr.evaluationOrder.Perm expr.occurrences) :
    (evaluationOrderFrom number exprs).Perm (occurrencesFrom number exprs) := by
  induction exprs generalizing number with
  | nil => exact .refl _
  | cons expr rest inRest =>
    rw [evaluationOrderFrom, occurrencesFrom]
    exact ((each expr List.mem_cons_self).map _).append
      (inRest (number + 1) fun other member => each other (.tail _ member))

/-- **Evaluation comes to every node once.** -/
theorem evaluationOrder_perm (expr : Expr) : expr.evaluationOrder.Perm expr.occurrences := by
  induction expr using operandInduction with
  | node expr inOperands =>
    rw [evaluationOrder_eq, occurrences_eq]
    exact (List.perm_append_singleton _ _).trans
      ((evaluationOrderFrom_perm 0 inOperands).cons _)

/-- A node is no deeper than the expression. -/
theorem depth_le_of_mem_occurrences {expr : Expr} :
    ∀ occurrence ∈ expr.occurrences, occurrence.2.depth ≤ expr.depth := by
  induction expr using operandInduction with
  | node expr inOperands =>
    refine (forall_mem_occurrences (·.depth ≤ expr.depth) expr).mpr ⟨Nat.le_refl _, ?_⟩
    intro operand member occurrence occurs
    have inside := inOperands operand member occurrence occurs
    have below := depth_operand_lt member
    omega

end Expr

/-! ### Nodes that fail on their own -/

/-- Whether a node fails on its own with an error, given the values of its operands. -/
inductive Evaluator.FailsAt (evaluator : Evaluator) (options : Options) (bindings : Bindings) :
    Expr → EvalError → Prop
  | declared {expr : Expr} {reference : Variable} (isVar : expr.var? = some reference)
      (listed : bindings.isExplicitlyUnbound reference = true) :
      evaluator.FailsAt options bindings expr (.unboundVariable reference.name true)
  | absent {expr : Expr} {reference : Variable} (isVar : expr.var? = some reference)
      (unlisted : bindings.isExplicitlyUnbound reference = false)
      (noValue : bindings.lookup reference = none) :
      evaluator.FailsAt options bindings expr (.unboundVariable reference.name false)
  | unknown {tag : Expr} {args : List Expr} {aggregate : Bool} {tagValue : Term}
      {values : List Term} (tagFound : evaluator.evaluate options bindings tag = .ok tagValue)
      (argsFound : args.map (evaluator.evaluate options bindings) = values.map .ok)
      (missing : evaluator.registry.get tagValue args.length = none) :
      evaluator.FailsAt options bindings (.compound tag args aggregate)
        (.unknownOperator tagValue args.length)
  | call {tag : Expr} {args : List Expr} {aggregate : Bool} {tagValue : Term}
      {values : List Term} {function : ExtensionFunction} {error : EvalError}
      (tagFound : evaluator.evaluate options bindings tag = .ok tagValue)
      (argsFound : args.map (evaluator.evaluate options bindings) = values.map .ok)
      (found : evaluator.registry.get tagValue args.length = some function)
      (fails : function values = .error error) :
      evaluator.FailsAt options bindings (.compound tag args aggregate) error

/-- The error of an outcome. -/
def error? {ε α : Type} : Except ε α → Option ε
  | .error error => some error
  | .ok _ => none

theorem error?_eq_some_iff {ε α : Type} {outcome : Except ε α} {error : ε} :
    error? outcome = some error ↔ outcome = .error error := by
  cases outcome with
  | error other => exact ⟨fun same => by cases same; rfl, fun same => by cases same; rfl⟩
  | ok value => exact ⟨nofun, nofun⟩

theorem error?_eq_none_iff {ε α : Type} {outcome : Except ε α} :
    error? outcome = none ↔ ∃ value, outcome = .ok value := by
  cases outcome with
  | error other => exact ⟨nofun, nofun⟩
  | ok value => exact ⟨fun _ => ⟨value, rfl⟩, fun _ => rfl⟩

namespace Registry

variable {registry : Registry} {bindings : Bindings}

/-- The error that a node fails with on its own. -/
def ownError? (registry : Registry) (bindings : Bindings) : Expr → Option EvalError
  | .compound tag args _ =>
    match registry.meaning bindings tag, registry.meanings bindings args with
    | .ok tagValue, .ok values => error? (registry.apply tagValue values)
    | _, _ => none
  | leaf => error? (registry.meaning bindings leaf)

/-- The first error on the way through operands is the first error of their values. -/
theorem error?_meanings {exprs : List Expr} (number : Nat)
    (each : ∀ expr ∈ exprs, error? (registry.meaning bindings expr) =
      expr.evaluationOrder.findSome? fun occurrence => registry.ownError? bindings occurrence.2) :
    error? (registry.meanings bindings exprs) =
      (Expr.evaluationOrderFrom number exprs).findSome? fun occurrence =>
        registry.ownError? bindings occurrence.2 := by
  induction exprs generalizing number with
  | nil => rfl
  | cons expr rest inRest =>
    have first := each expr List.mem_cons_self
    have later := inRest (number + 1) fun other member => each other (.tail _ member)
    rw [meanings, Expr.evaluationOrderFrom, List.findSome?_append, List.findSome?_map, ← later]
    show _ = (expr.evaluationOrder.findSome? fun occurrence =>
      registry.ownError? bindings occurrence.2).or _
    rw [← first]
    cases registry.meaning bindings expr with
    | error error => rfl
    | ok value => cases registry.meanings bindings rest <;> rfl

/-- The error of a node is that of its operands or, for want of one, its own. -/
theorem error?_node (expr : Expr) :
    error? (registry.meaning bindings expr) =
      (error? (registry.meanings bindings expr.operands)).or (registry.ownError? bindings expr) := by
  cases expr with
  | constant term => rfl
  | var reference => rfl
  | compound tag args aggregate =>
    rw [meaning, Expr.operands, meanings, ownError?]
    cases registry.meaning bindings tag with
    | error error => rfl
    | ok tagValue => cases registry.meanings bindings args <;> rfl

/-- **The error of an expression is the first that a node fails with on its own**, on the way through
the nodes in the order of evaluation. -/
theorem error?_meaning (expr : Expr) :
    error? (registry.meaning bindings expr) =
      expr.evaluationOrder.findSome? fun occurrence =>
        registry.ownError? bindings occurrence.2 := by
  induction expr using Expr.operandInduction with
  | node expr inOperands =>
    rw [Expr.evaluationOrder_eq, List.findSome?_append, ← error?_meanings 0 inOperands, error?_node,
      List.findSome?_singleton]

/-- Operands have values together when each has one. -/
theorem meanings_eq_ok_iff {exprs : List Expr} {values : List Term} :
    registry.meanings bindings exprs = .ok values ↔
      exprs.map (registry.meaning bindings) = values.map .ok := by
  induction exprs generalizing values with
  | nil => cases values <;> simp [meanings]
  | cons expr rest inRest =>
    rw [meanings]
    constructor
    · intro succeeds
      obtain ⟨value, found, succeeds⟩ := bind_eq_ok.mp succeeds
      obtain ⟨others, restFound, same⟩ := bind_eq_ok.mp succeeds
      cases same
      rw [List.map_cons, List.map_cons, found, inRest.mp restFound]
    · intro same
      cases values with
      | nil => cases same
      | cons value others =>
        obtain ⟨found, restFound⟩ := List.cons.inj same
        exact bind_eq_ok.mpr ⟨value, found, bind_eq_ok.mpr ⟨others, inRest.mpr restFound, rfl⟩⟩

end Registry

/-- A variable has no value when it is listed without one, or is not listed and not bound. -/
theorem Bindings.value_eq_error_iff {bindings : Bindings} {reference : Variable}
    {error : EvalError} :
    bindings.value reference = .error error ↔
      (bindings.isExplicitlyUnbound reference = true ∧
        error = .unboundVariable reference.name true) ∨
      (bindings.isExplicitlyUnbound reference = false ∧ bindings.lookup reference = none ∧
        error = .unboundVariable reference.name false) := by
  unfold value
  cases bindings.isExplicitlyUnbound reference with
  | true => simp [eq_comm]
  | false => cases bindings.lookup reference <;> simp [eq_comm]

namespace Evaluator

variable {evaluator : Evaluator} {options : Options} {bindings : Bindings} {error : EvalError}

/-- A variable fails on its own when it has no value. -/
theorem failsAt_var_iff {expr : Expr} {reference : Variable} (isVar : expr.var? = some reference) :
    evaluator.FailsAt options bindings expr error ↔ bindings.value reference = .error error := by
  rw [Bindings.value_eq_error_iff]
  constructor
  · intro fails
    cases fails with
    | declared isOther listed =>
      cases isVar.symm.trans isOther
      exact .inl ⟨listed, rfl⟩
    | absent isOther unlisted noValue =>
      cases isVar.symm.trans isOther
      exact .inr ⟨unlisted, noValue, rfl⟩
    | unknown => cases isVar
    | call => cases isVar
  · rintro (⟨listed, rfl⟩ | ⟨unlisted, noValue, rfl⟩)
    · exact .declared isVar listed
    · exact .absent isVar unlisted noValue

/-- A constant that is no variable does not fail. -/
theorem not_failsAt_constant {term : Term} (isConstant : term.var? = none) :
    ¬evaluator.FailsAt options bindings (.constant term) error := by
  have noVar : (Expr.constant term).var? = none := by
    cases term with
    | var reference => cases isConstant
    | _ => rfl
  intro fails
  cases fails with
  | declared isVar => cases noVar.symm.trans isVar
  | absent isVar => cases noVar.symm.trans isVar

/-- A compound fails on its own when its operands have values and their call fails. -/
theorem failsAt_compound_iff {tag : Expr} {args : List Expr} {aggregate : Bool} :
    evaluator.FailsAt options bindings (.compound tag args aggregate) error ↔
      ∃ tagValue values, evaluator.evaluate options bindings tag = .ok tagValue ∧
        args.map (evaluator.evaluate options bindings) = values.map .ok ∧
        evaluator.registry.apply tagValue values = .error error := by
  have sameCount {values : List Term}
      (argsFound : args.map (evaluator.evaluate options bindings) = values.map .ok) :
      values.length = args.length := by
    have lengths := congrArg List.length argsFound
    rw [List.length_map, List.length_map] at lengths
    exact lengths.symm
  constructor
  · intro fails
    cases fails with
    | declared isVar => cases isVar
    | absent isVar => cases isVar
    | unknown tagFound argsFound missing =>
      refine ⟨_, _, tagFound, argsFound, ?_⟩
      rw [Registry.apply, sameCount argsFound, missing]
    | call tagFound argsFound found fails =>
      refine ⟨_, _, tagFound, argsFound, ?_⟩
      rw [Registry.apply, sameCount argsFound, found]
      exact fails
  · rintro ⟨tagValue, values, tagFound, argsFound, fails⟩
    rw [Registry.apply, sameCount argsFound] at fails
    cases found : evaluator.registry.get tagValue args.length with
    | none =>
      rw [found] at fails
      cases fails
      exact .unknown tagFound argsFound found
    | some function =>
      rw [found] at fails
      exact .call tagFound argsFound found fails

/-- **Within the limit, what a node fails with on its own can be computed.** -/
theorem ownError?_eq_some_iff {expr : Expr} (fits : expr.depth ≤ options.maxDepth) :
    evaluator.registry.ownError? bindings expr = some error ↔
      evaluator.FailsAt options bindings expr error := by
  have operandsFit : ∀ operand ∈ expr.operands, evaluator.evaluate options bindings operand =
      evaluator.registry.meaning bindings operand := fun operand member =>
    evaluate_of_depth_le (Nat.le_trans (Nat.le_of_lt (Expr.depth_operand_lt member)) fits)
  cases expr with
  | var reference => exact error?_eq_some_iff.trans (failsAt_var_iff rfl).symm
  | constant term =>
    cases term with
    | var reference => exact error?_eq_some_iff.trans (failsAt_var_iff rfl).symm
    | _ => exact ⟨nofun, fun fails => absurd fails (not_failsAt_constant rfl)⟩
  | compound tag args aggregate =>
    rw [failsAt_compound_iff, operandsFit tag List.mem_cons_self,
      List.map_congr_left fun arg member => operandsFit arg (.tail _ member)]
    simp only [← Registry.meanings_eq_ok_iff]
    rw [Registry.ownError?]
    cases evaluator.registry.meaning bindings tag with
    | error other => exact ⟨nofun, fun ⟨_, _, same, _⟩ => nomatch same⟩
    | ok tagValue =>
      cases evaluator.registry.meanings bindings args with
      | error other => exact ⟨nofun, fun ⟨_, _, _, same, _⟩ => nomatch same⟩
      | ok values =>
        refine error?_eq_some_iff.trans ⟨fun fails => ⟨tagValue, values, rfl, rfl, fails⟩, ?_⟩
        rintro ⟨_, _, sameTag, sameArgs, fails⟩
        cases sameTag
        cases sameArgs
        exact fails

/-- **The first error wins.** Evaluation comes to every node of an expression once. If the expression
is within the limit, it has a value exactly when no node fails on its own, and an error exactly when
this is the error of the first node, in the order of evaluation, that fails on its own. -/
theorem first_error_wins (evaluator : Evaluator) (options : Options) (bindings : Bindings)
    (expr : Expr) (fits : expr.depth ≤ options.maxDepth) :
    expr.evaluationOrder.Perm expr.occurrences ∧
    ((∃ value, evaluator.evaluate options bindings expr = .ok value) ↔
      ∀ occurrence ∈ expr.evaluationOrder, ∀ error,
        ¬evaluator.FailsAt options bindings occurrence.2 error) ∧
    ∀ error, evaluator.evaluate options bindings expr = .error error ↔
      ∃ before occurrence after, expr.evaluationOrder = before ++ occurrence :: after ∧
        evaluator.FailsAt options bindings occurrence.2 error ∧
        ∀ earlier ∈ before, ∀ other, ¬evaluator.FailsAt options bindings earlier.2 other := by
  have nodeFits : ∀ occurrence ∈ expr.evaluationOrder, occurrence.2.depth ≤ options.maxDepth :=
    fun occurrence occurs => Nat.le_trans (Expr.depth_le_of_mem_occurrences occurrence
      (expr.evaluationOrder_perm.mem_iff.mp occurs)) fits
  have own {occurrence : Expr.Occurrence} (occurs : occurrence ∈ expr.evaluationOrder)
      (error : EvalError) :=
    @ownError?_eq_some_iff evaluator options bindings error _ (nodeFits occurrence occurs)
  have free {occurrence : Expr.Occurrence} (occurs : occurrence ∈ expr.evaluationOrder) :
      evaluator.registry.ownError? bindings occurrence.2 = none ↔
        ∀ error, ¬evaluator.FailsAt options bindings occurrence.2 error := by
    rw [Option.eq_none_iff_forall_ne_some]
    exact forall_congr' fun error => not_congr (own occurs error)
  rw [evaluate_of_depth_le fits]
  refine ⟨expr.evaluationOrder_perm, ?_, fun error => ?_⟩
  · rw [← error?_eq_none_iff, Registry.error?_meaning, List.findSome?_eq_none_iff]
    exact forall₂_congr fun occurrence occurs => free occurs
  · rw [← error?_eq_some_iff, Registry.error?_meaning, List.findSome?_eq_some_iff]
    refine exists_congr fun before => exists_congr fun occurrence => exists_congr fun after =>
      and_congr_right fun same => ?_
    have occurs {other : Expr.Occurrence} (member : other ∈ before ++ occurrence :: after) :
        other ∈ expr.evaluationOrder := same ▸ member
    exact and_congr (own (occurs (by simp)) error)
      (forall₂_congr fun earlier member => free (occurs (List.mem_append_left _ member)))

/-- A cast of a text that is no number, an unbound variable after it and a negation of two arguments:
the cast fails first, though the negation is not registered and stands above it. -/
theorem first_error_wins_cast :
    (Expr.call Fn.not [.call Xsd.integer [.constant (.literal (.simple "x"))],
      .var ⟨"y"⟩]).depth ≤ ({} : Options).maxDepth ∧
    standard.evaluate {} Solution.empty.bindings (.call Fn.not
        [.call Xsd.integer [.constant (.literal (.simple "x"))], .var ⟨"y"⟩]) =
      .error (.castFailed (.datatype Xsd.string) Xsd.integer (.invalidLexical "x")) := by
  have depth : (Expr.call Fn.not [.call Xsd.integer [.constant (.literal (.simple "x"))],
      .var ⟨"y"⟩]).depth = 3 := by
    rw [Expr.depth_eq_height]
    rfl
  have fits : (Expr.call Fn.not [.call Xsd.integer [.constant (.literal (.simple "x"))],
      .var ⟨"y"⟩]).depth ≤ ({} : Options).maxDepth := by
    rw [depth]
    decide
  refine ⟨fits, ((first_error_wins standard {} Solution.empty.bindings _ fits).2.2 _).mpr ?_⟩
  -- before the cast come the name of the negation, the name of the cast and the text
  refine ⟨[([0], .constant (.iri Fn.not)), ([1, 0], .constant (.iri Xsd.integer)),
      ([1, 1], .constant (.literal (.simple "x")))],
    ([1], .call Xsd.integer [.constant (.literal (.simple "x"))]), _, rfl, ?_, ?_⟩
  · have argsFound : [Expr.constant (.literal (.simple "x"))].map
        (standard.evaluate {} Solution.empty.bindings) =
          [Term.literal (.simple "x")].map .ok := rfl
    exact .call rfl argsFound rfl rfl
  · intro earlier member other
    simp only [List.mem_cons, List.not_mem_nil, or_false] at member
    rcases member with rfl | rfl | rfl <;> exact not_failsAt_constant rfl

end Evaluator

end QueryAlgebra
