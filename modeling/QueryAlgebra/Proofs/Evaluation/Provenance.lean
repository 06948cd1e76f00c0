/-
**Where the errors of an evaluation come from.**

An error of an evaluation is that of the limit, which the expression exceeds, or it arises at one of
the nodes: at a variable without a value, or at a call of which the tag and the arguments have values
(`reduce_error_origin`). With the standard functions an error of the second kind says that no function
takes the tag with as many arguments, or lies with the arguments themselves, so every error tells
something true of the expression and the solution (`standard_error_sound`).
-/
import QueryAlgebra.Proofs.Evaluation.Limit
import QueryAlgebra.Proofs.Expr.Variables

namespace QueryAlgebra

/-! ### Variables without a value -/

/-- A variable has the value that a solution has for it, and for want of one the error tells whether
it is listed. -/
theorem Solution.value_eq (solution : Solution) (reference : Variable) :
    solution.bindings.value reference =
      match solution.lookup reference with
      | some term => .ok term
      | none => .error (.unboundVariable reference.name (solution.contains reference)) := by
  rcases found : solution.map.find? reference with _ | _ | value <;>
    simp [Bindings.value, bindings, isExplicitlyUnbound, lookup, contains, OrderedMap.contains, found]

theorem Solution.value_eq_error_iff {solution : Solution} {reference : Variable}
    {error : EvalError} :
    solution.bindings.value reference = .error error ↔
      solution.isBound reference = false ∧
        error = .unboundVariable reference.name (solution.contains reference) := by
  rw [value_eq, isBound]
  cases solution.lookup reference with
  | none => exact ⟨fun same => ⟨rfl, (Except.error.inj same).symm⟩, fun ⟨_, same⟩ => by rw [same]⟩
  | some term => exact ⟨nofun, nofun⟩

/-! ### Nodes at which an error arises -/

namespace Registry

/-- Whether an error arises at a node itself and in none of its operands. -/
inductive RaisedAt (registry : Registry) (bindings : Bindings) (limit : Nat) (error : EvalError) :
    Expr → Prop
  | unbound {expr : Expr} {reference : Variable} (isVar : expr.var? = some reference)
      (fails : bindings.value reference = .error error) :
      RaisedAt registry bindings limit error expr
  | call {tag : Expr} {args : List Expr} {aggregate : Bool} {tagValue : Term} {values : List Term}
      (tagFound : registry.reduce bindings limit 1 tag = .ok tagValue)
      (argsFound : registry.reduceAll bindings limit 1 args = .ok values)
      (fails : registry.apply tagValue values = .error error) :
      RaisedAt registry bindings limit error (.compound tag args aggregate)

/-- Whether an error arises at one of the nodes of an expression. -/
def RaisedIn (registry : Registry) (bindings : Bindings) (limit : Nat) (error : EvalError)
    (expr : Expr) : Prop :=
  ∃ occurrence ∈ expr.occurrences, registry.RaisedAt bindings limit error occurrence.2

variable {registry : Registry} {bindings : Bindings} {limit depth : Nat} {error : EvalError}

theorem RaisedAt.raisedIn {expr : Expr} (raised : registry.RaisedAt bindings limit error expr) :
    registry.RaisedIn bindings limit error expr :=
  ⟨([], expr), Expr.mem_occurrences_self expr, raised⟩

theorem RaisedIn.of_operand {expr operand : Expr} (member : operand ∈ expr.operands)
    (raised : registry.RaisedIn bindings limit error operand) :
    registry.RaisedIn bindings limit error expr :=
  Expr.exists_mem_occurrences_of_operand member raised

/-- An error is the limit's own, which the expression exceeds, or arises at one of the nodes. -/
def Originates (registry : Registry) (bindings : Bindings) (limit depth : Nat) (error : EvalError)
    (expr : Expr) : Prop :=
  registry.RaisedIn bindings limit error expr ∨
    error = .recursionLimit ∧ limit + 1 < depth + expr.depth

theorem Originates.of_operand {expr operand : Expr} (member : operand ∈ expr.operands)
    (origin : registry.Originates bindings limit (depth + 1) error operand) :
    registry.Originates bindings limit depth error expr := by
  rcases origin with raised | ⟨isLimit, exceeds⟩
  · exact .inl (raised.of_operand member)
  · have below := Expr.depth_operand_lt member
    exact .inr ⟨isLimit, by omega⟩

theorem Originates.of_deep (expr : Expr) (deep : limit < depth) :
    registry.Originates bindings limit depth .recursionLimit expr := by
  have := expr.depth_pos
  exact .inr ⟨rfl, by omega⟩

/-- The error of a list is that of one of its nodes. -/
theorem exists_reduce_error {exprs : List Expr}
    (fails : registry.reduceAll bindings limit depth exprs = .error error) :
    ∃ expr ∈ exprs, registry.reduce bindings limit depth expr = .error error := by
  induction exprs with
  | nil => cases fails
  | cons first rest inRest =>
    rw [reduceAll] at fails
    rcases bind_eq_error.mp fails with fails | ⟨value, _, fails⟩
    · exact ⟨first, List.mem_cons_self, fails⟩
    · rcases bind_eq_error.mp fails with fails | ⟨values, _, fails⟩
      · obtain ⟨expr, member, fails⟩ := inRest fails
        exact ⟨expr, .tail _ member, fails⟩
      · cases fails

theorem reduceAll_ok_of_le {shallower : Nat} {exprs : List Expr} {values : List Term}
    (le : shallower ≤ depth) (succeeds : registry.reduceAll bindings limit depth exprs = .ok values) :
    registry.reduceAll bindings limit shallower exprs = .ok values := by
  rw [← succeeds]
  refine reduceAll_congr fun expr member => ?_
  obtain ⟨value, found⟩ := reduce_ok_of_reduceAll_ok succeeds expr member
  rw [found, reduce_ok_of_le le found]

/-- The values of a list are those of its nodes. -/
theorem map_reduce_of_reduceAll_ok {exprs : List Expr} {values : List Term}
    (succeeds : registry.reduceAll bindings limit depth exprs = .ok values) :
    exprs.map (registry.reduce bindings limit depth) = values.map .ok := by
  induction exprs generalizing values with
  | nil =>
    cases succeeds
    rfl
  | cons first rest inRest =>
    rw [reduceAll] at succeeds
    obtain ⟨value, firstValue, succeeds⟩ := bind_eq_ok.mp succeeds
    obtain ⟨others, restValues, same⟩ := bind_eq_ok.mp succeeds
    cases same
    rw [List.map_cons, List.map_cons, firstValue, inRest restValues]

theorem length_of_reduceAll_ok {exprs : List Expr} {values : List Term}
    (succeeds : registry.reduceAll bindings limit depth exprs = .ok values) :
    values.length = exprs.length := by
  have lengths := congrArg List.length (map_reduce_of_reduceAll_ok succeeds)
  rw [List.length_map, List.length_map] at lengths
  exact lengths.symm

/-- **An error arises at a node or is that of the limit.** -/
theorem reduce_error_origin {expr : Expr} (below : 0 < depth)
    (fails : registry.reduce bindings limit depth expr = .error error) :
    registry.Originates bindings limit depth error expr := by
  induction expr using Expr.operandInduction generalizing depth with
  | node expr inOperands =>
    by_cases deep : limit < depth
    · rw [reduce_of_deep _ deep] at fails
      cases fails
      exact .of_deep _ deep
    have inside : ∀ operand ∈ expr.operands,
        registry.reduce bindings limit (depth + 1) operand = .error error →
          registry.Originates bindings limit depth error expr :=
      fun operand member failed =>
        .of_operand member (inOperands operand member (Nat.succ_pos depth) failed)
    cases expr with
    | constant term =>
      rw [reduce, if_neg deep] at fails
      cases term with
      | var reference => exact .inl (RaisedAt.unbound rfl fails).raisedIn
      | iri value => cases fails
      | literal value => cases fails
      | blank value => cases fails
    | var reference =>
      rw [reduce, if_neg deep] at fails
      exact .inl (RaisedAt.unbound rfl fails).raisedIn
    | compound tag args aggregate =>
      rw [reduce_compound _ _ _ deep] at fails
      rcases bind_eq_error.mp fails with fails | ⟨tagValue, tagFound, fails⟩
      · exact inside tag List.mem_cons_self fails
      rcases bind_eq_error.mp fails with fails | ⟨values, argsFound, fails⟩
      · obtain ⟨arg, member, fails⟩ := exists_reduce_error fails
        exact inside arg (.tail _ member) fails
      -- what has a value this deep has it at the top as well
      · have tagFound := reduce_ok_of_le (Nat.le_add_left 1 depth) tagFound
        have argsFound := reduceAll_ok_of_le (Nat.le_add_left 1 depth) argsFound
        exact .inl (RaisedAt.call tagFound argsFound fails).raisedIn

end Registry

/-! ### The standard functions -/

/-- A call fails for want of a standard function, or with the error of one. -/
theorem Registry.standard_apply_error {tag : Term} {args : List Term} {error : EvalError}
    (fails : Registry.standard.apply tag args = .error error) :
    (error = .unknownOperator tag args.length ∧
        ∀ name function, (name, args.length, function) ∈ standardFunctions → tag ≠ .iri name) ∨
      ∃ name function, tag = .iri name ∧ (name, args.length, function) ∈ standardFunctions ∧
        function args = .error error := by
  unfold apply at fails
  cases found : Registry.standard.get tag args.length with
  | none =>
    rw [found] at fails
    cases fails
    refine .inl ⟨rfl, ?_⟩
    rintro name function member rfl
    exact not_mem_standardFunctions_of_get found member
  | some function =>
    rw [found] at fails
    obtain ⟨name, isName, member⟩ := mem_standardFunctions_of_get found
    exact .inr ⟨name, function, isName, member, fails⟩

/-- Whether an error is that of a standard function that a compound of an expression calls. -/
def EvalError.IsOfCall (options : Options) (solution : Solution) (expr : Expr) (error : EvalError) :
    Prop :=
  ∃ occurrence ∈ expr.occurrences, ∃ tagExpr args aggregate name function values,
    occurrence.2 = .compound tagExpr args aggregate ∧
    Evaluator.standard.evaluate options solution.bindings tagExpr = .ok (.iri name) ∧
    args.map (Evaluator.standard.evaluate options solution.bindings) = values.map .ok ∧
    (name, args.length, function) ∈ standardFunctions ∧ function values = .error error

/-- Whether what an error says is true of an expression that is evaluated for a solution with the
standard functions. -/
def EvalError.IsTrueOf (options : Options) (solution : Solution) (expr : Expr) : EvalError → Prop
  | .unboundVariable name declared =>
    ∃ reference ∈ expr.vars, reference.name = name ∧ solution.isBound reference = false ∧
      declared = solution.contains reference
  | .unknownOperator tag arity =>
    ∃ occurrence ∈ expr.occurrences, ∃ tagExpr args aggregate,
      occurrence.2 = .compound tagExpr args aggregate ∧ args.length = arity ∧
      Evaluator.standard.evaluate options solution.bindings tagExpr = .ok tag ∧
      ∀ name function, (name, arity, function) ∈ standardFunctions → tag ≠ .iri name
  | .typeMismatch mismatch =>
    mismatch.expected ≠ "1 argument" ∧ mismatch.expected ≠ "2 arguments" ∧
      (EvalError.typeMismatch mismatch).IsOfCall options solution expr
  | .incompatibleArguments operator left right =>
    (EvalError.incompatibleArguments operator left right).IsOfCall options solution expr
  | .castFailed source target fault =>
    (EvalError.castFailed source target fault).IsOfCall options solution expr
  | .recursionLimit => options.maxDepth < expr.depth
  | .unknownName _ _ => False
  | .incompatibleTexts _ _ _ => False
  | .notImplemented _ => False
  | .notQueryable => False
  | .store _ => False

/-- What is expected of a term is not a number of arguments. -/
theorem Mismatch.expected_ne (mismatch : Mismatch) (fault : mismatch.IsOfTerm) :
    mismatch.expected ≠ "1 argument" ∧ mismatch.expected ≠ "2 arguments" := by
  cases mismatch with
  | notCastable kind =>
    show "literal or IRI" ≠ _ ∧ "literal or IRI" ≠ _
    decide
  | notText term =>
    show "string literal" ≠ _ ∧ "string literal" ≠ _
    decide
  | notBoolean term =>
    show "term with an effective boolean value" ≠ _ ∧ "term with an effective boolean value" ≠ _
    decide
  | _ => exact fault.elim

section

variable {options : Options} {solution : Solution} {expr : Expr} {error : EvalError}

theorem EvalError.IsOfCall.isTrueOf (isOfCall : error.IsOfCall options solution expr)
    (fault : error.IsOperandError) : error.IsTrueOf options solution expr := by
  cases error with
  | typeMismatch mismatch =>
    obtain ⟨notOne, notTwo⟩ := mismatch.expected_ne fault
    exact ⟨notOne, notTwo, isOfCall⟩
  | incompatibleArguments operator left right => exact isOfCall
  | castFailed source target fault => exact isOfCall
  | _ => exact fault.elim

theorem Registry.RaisedIn.isTrueOf
    (raised : Registry.standard.RaisedIn solution.bindings options.maxDepth error expr) :
    error.IsTrueOf options solution expr := by
  obtain ⟨⟨path, node⟩, occurs, raised⟩ := raised
  cases raised with
  | unbound isVar fails =>
    obtain ⟨isUnbound, rfl⟩ := Solution.value_eq_error_iff.mp fails
    exact ⟨_, Expr.mem_vars_iff.mpr ⟨_, occurs, isVar⟩, rfl, isUnbound, rfl⟩
  | call tagFound argsFound fails =>
    have count := length_of_reduceAll_ok argsFound
    rcases standard_apply_error fails with ⟨rfl, absent⟩ | ⟨name, function, rfl, member, fails⟩
    · exact ⟨_, occurs, _, _, _, rfl, count.symm, tagFound, absent⟩
    · have fault := (standard_failsByArity member).onOperands _ rfl error fails
      have argValues := map_reduce_of_reduceAll_ok argsFound
      exact EvalError.IsOfCall.isTrueOf
        ⟨_, occurs, _, _, _, name, function, _, rfl, tagFound, argValues, count ▸ member, fails⟩ fault

/-- **Errors of the standard evaluator are sound.** An unbound variable occurs in the expression and
has no value in the solution, which lists it or not as the error says. An unknown operator is the value
of the tag of a compound with that many arguments, and no standard function is registered so. The
limit is exceeded by the expression. Any other error is that of a standard function that a compound
calls, and it lies with the arguments, never with their number. -/
theorem Evaluator.standard_error_sound (options : Options) (solution : Solution) (expr : Expr)
    (error : EvalError)
    (fails : standard.evaluate options solution.bindings expr = .error error) :
    error.IsTrueOf options solution expr := by
  rcases Registry.reduce_error_origin Nat.one_pos fails with raised | ⟨rfl, exceeds⟩
  · exact raised.isTrueOf
  · show options.maxDepth < expr.depth
    omega

end

/-- A predicate on two texts with one argument is unknown, wherever it stands. -/
theorem Evaluator.standard_error_sound_nested :
    standard.evaluate {} (Solution.empty.bind ⟨"a"⟩ (.ofBool true)).bindings
        (.call Fn.not [.call Fn.startsWith [.var ⟨"a"⟩]]) =
      .error (.unknownOperator (.iri Fn.startsWith) 1) ∧
    (EvalError.unknownOperator (.iri Fn.startsWith) 1).IsTrueOf {}
      (Solution.empty.bind ⟨"a"⟩ (.ofBool true))
      (.call Fn.not [.call Fn.startsWith [.var ⟨"a"⟩]]) := by
  have fails : standard.evaluate {} (Solution.empty.bind ⟨"a"⟩ (.ofBool true)).bindings
      (.call Fn.not [.call Fn.startsWith [.var ⟨"a"⟩]]) =
        .error (.unknownOperator (.iri Fn.startsWith) 1) := by
    rfl
  exact ⟨fails, standard_error_sound _ _ _ _ fails⟩

end QueryAlgebra
