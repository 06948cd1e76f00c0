/-
**Putting hoisted aggregates back.**

Where the numbered variables do not occur outside the aggregates, the substitution of the aggregates
for them gives the expression back (`substituted_restoring`). By the substitution lemma the hoisted
expression then has the value of the expression as soon as the numbered variables have the values of
the aggregates (`meaning_restoring`).
-/
import QueryAlgebra.Proofs.Rewriting.Hoisting
import QueryAlgebra.Proofs.Rewriting.Preservation
import QueryAlgebra.Proofs.Solution

namespace QueryAlgebra

namespace Expr

/-- Different numbers have different variables. -/
theorem aggregateVar_injective {number other : Nat}
    (same : aggregateVar number = aggregateVar other) : number = other := by
  have texts := String.ofList_injective (congrArg Variable.name same)
  rw [← Text.valueOf_digitsOf number, ← Text.valueOf_digitsOf other, (List.cons.inj texts).2]

/-- The substitution of aggregates for their variables, which keeps every other variable. -/
def restoring (aggregates : List Expr) (reference : Variable) : Expr :=
  match aggregates.zipIdx.find? fun entry => aggregateVar entry.2 = reference with
  | some entry => entry.1
  | none => .var reference

theorem restoring_aggregateVar {aggregates : List Expr} {number : Nat} {aggregate : Expr}
    (found : aggregates[number]? = some aggregate) :
    restoring aggregates (aggregateVar number) = aggregate := by
  unfold restoring
  cases search : aggregates.zipIdx.find? fun entry => aggregateVar entry.2 = aggregateVar number with
  | none =>
    have listed : (aggregate, number) ∈ aggregates.zipIdx := List.mem_zipIdx_iff_getElem?.mpr found
    have differs := List.find?_eq_none.mp search _ listed
    simp at differs
  | some entry =>
    have listed := List.mem_zipIdx_iff_getElem?.mp (List.mem_of_find?_eq_some search)
    have matched : aggregateVar entry.2 = aggregateVar number := by
      simpa using List.find?_some search
    rw [aggregateVar_injective matched, found] at listed
    exact (Option.some.inj listed).symm

theorem restoring_other {aggregates : List Expr} {reference : Variable}
    (other : ∀ number < aggregates.length, reference ≠ aggregateVar number) :
    restoring aggregates reference = .var reference := by
  unfold restoring
  cases search : aggregates.zipIdx.find? fun entry => aggregateVar entry.2 = reference with
  | none => rfl
  | some entry =>
    have listed := List.mem_zipIdx_iff_getElem?.mp (List.mem_of_find?_eq_some search)
    have inRange : entry.2 < aggregates.length := (List.getElem?_eq_some_iff.mp listed).1
    have matched : aggregateVar entry.2 = reference := by simpa using List.find?_some search
    exact absurd matched.symm (other entry.2 inRange)

/-- Whether a substitution gives back what a hoisting takes out of the nodes of a surface: their
aggregates for the variables of the numbers from a number on, and their variables unchanged. -/
structure Restores (subst : Variable → Expr) (number : Nat) (nodes : List Expr) : Prop where
  found : ∀ index aggregate, (nodes.filter isAggregate)[index]? = some aggregate →
    subst (aggregateVar (number + index)) = aggregate
  kept : ∀ reference, .var reference ∈ nodes → subst reference = .var reference
  noConstants : ∀ reference, .constant (.var reference) ∉ nodes

namespace Restores

variable {subst : Variable → Expr} {number : Nat}

theorem left {front back : List Expr} (restores : Restores subst number (front ++ back)) :
    Restores subst number front where
  found index aggregate found := by
    refine restores.found index aggregate ?_
    have inRange : index < (front.filter isAggregate).length :=
      (List.getElem?_eq_some_iff.mp found).1
    rw [List.filter_append, List.getElem?_append_left inRange, found]
  kept reference member := restores.kept reference (List.mem_append_left _ member)
  noConstants reference member := restores.noConstants reference (List.mem_append_left _ member)

theorem right {front back : List Expr} (restores : Restores subst number (front ++ back)) :
    Restores subst (number + (front.filter isAggregate).length) back where
  found index aggregate found := by
    rw [Nat.add_assoc]
    refine restores.found _ aggregate ?_
    rw [List.filter_append, List.getElem?_append_right (Nat.le_add_right _ _),
      Nat.add_sub_cancel_left, found]
  kept reference member := restores.kept reference (List.mem_append_right _ member)
  noConstants reference member := restores.noConstants reference (List.mem_append_right _ member)

theorem below {node : Expr} {nodes : List Expr} (plain : node.isAggregate = false)
    (restores : Restores subst number (node :: nodes)) : Restores subst number nodes := by
  have rest : Restores subst (number + ([node].filter isAggregate).length) nodes :=
    @right subst number [node] nodes restores
  rw [List.filter_cons_of_neg (by simp [plain])] at rest
  exact rest

end Restores

theorem substituted_hoistedAll {subst : Variable → Expr} {exprs : List Expr}
    (each : ∀ expr ∈ exprs, ∀ number, Restores subst number expr.surface →
      (expr.hoisted (fun number => .var (aggregateVar number)) number).substituted subst = expr)
    (number : Nat) (restores : Restores subst number (surfaceOf exprs)) :
    (hoistedAll (fun number => .var (aggregateVar number)) number exprs).map (substituted subst) =
      exprs := by
  induction exprs generalizing number with
  | nil => rfl
  | cons expr rest inRest =>
    rw [surfaceOf] at restores
    rw [hoistedAll, outermost, List.map_cons, each expr List.mem_cons_self number restores.left,
      inRest (fun other member => each other (.tail _ member)) _ restores.right]

/-- **Putting the aggregates back gives the expression back.** -/
theorem substituted_hoisted {subst : Variable → Expr} (expr : Expr) (number : Nat)
    (restores : Restores subst number expr.surface) :
    (expr.hoisted (fun number => .var (aggregateVar number)) number).substituted subst = expr := by
  induction expr generalizing number with
  | constant term =>
    rw [hoisted]
    refine substituted_leaf rfl ?_
    cases term with
    | var reference => exact absurd List.mem_cons_self (restores.noConstants reference)
    | iri value => rfl
    | literal value => rfl
    | blank value => rfl
  | var reference =>
    rw [hoisted, substituted_var rfl]
    exact restores.kept reference List.mem_cons_self
  | compound tag args aggregate inTag inArgs =>
    cases aggregate with
    | true =>
      rw [hoisted_aggregate rfl, substituted_var rfl]
      exact restores.found 0 _ rfl
    | false =>
      rw [surface_plain rfl] at restores
      have inside := restores.below rfl
      rw [operands, surfaceOf] at inside
      rw [hoisted, if_neg Bool.false_ne_true, outermost, substituted_compound,
        inTag number inside.left, substituted_hoistedAll inArgs _ inside.right]

/-- Putting the hoisted aggregates back gives an expression back in which their variables do not
occur outside them, and no constants that hold variables do. -/
theorem substituted_restoring {expr : Expr}
    (apart : ∀ node ∈ expr.surface,
      (∀ number < expr.outermost.length, node ≠ .var (aggregateVar number)) ∧
        ∀ reference, node ≠ .constant (.var reference)) :
    (expr.hoisted (fun number => .var (aggregateVar number)) 0).substituted
      (restoring expr.outermost) = expr := by
  refine substituted_hoisted expr 0 ⟨?_, ?_, ?_⟩
  · intro index aggregate found
    rw [Nat.zero_add]
    exact restoring_aggregateVar found
  · intro reference member
    refine restoring_other fun number inRange same => ?_
    exact (apart _ member).1 number inRange (congrArg Expr.var same)
  · exact fun reference member => (apart _ member).2 reference rfl

end Expr

/-! ### Bindings for the numbered variables -/

/-- Whether bindings agree with others but give the variables of the numbers of some values these
values. -/
structure Bindings.Supplies (grouped bindings : Bindings) (values : List Term) : Prop where
  bound : ∀ number value, values[number]? = some value →
    grouped.lookup (Expr.aggregateVar number) = some value ∧
      grouped.isExplicitlyUnbound (Expr.aggregateVar number) = false
  others : ∀ reference, (∀ number < values.length, reference ≠ Expr.aggregateVar number) →
    grouped.lookup reference = bindings.lookup reference ∧
      grouped.isExplicitlyUnbound reference = bindings.isExplicitlyUnbound reference

namespace Bindings.Supplies

variable {grouped bindings : Bindings} {values : List Term}

theorem value_aggregateVar (supplies : grouped.Supplies bindings values) {number : Nat}
    {value : Term} (listed : values[number]? = some value) :
    grouped.value (Expr.aggregateVar number) = .ok value := by
  obtain ⟨found, notUnbound⟩ := supplies.bound number value listed
  rw [Bindings.value, notUnbound, if_neg Bool.false_ne_true, found]

theorem value_other (supplies : grouped.Supplies bindings values) {reference : Variable}
    (other : ∀ number < values.length, reference ≠ Expr.aggregateVar number) :
    grouped.value reference = bindings.value reference := by
  obtain ⟨sameLookup, sameUnbound⟩ := supplies.others reference other
  rw [Bindings.value, Bindings.value, sameLookup, sameUnbound]

/-- Without values nothing changes. -/
theorem refl (bindings : Bindings) : bindings.Supplies bindings [] where
  bound number value listed := by cases listed
  others _ _ := ⟨rfl, rfl⟩

/-- A solution with the variable of the next number bound supplies one value more. -/
theorem bind {solution : Solution} (supplies : solution.bindings.Supplies bindings values)
    (value : Term) :
    (solution.bind (Expr.aggregateVar values.length) value).bindings.Supplies bindings
      (values ++ [value]) where
  bound number other listed := by
    unfold Solution.bindings
    simp only [Solution.lookup_bind, Solution.isExplicitlyUnbound_bind]
    by_cases last : number = values.length
    · rw [last, List.getElem?_concat_length] at listed
      rw [last, if_pos rfl, if_pos rfl]
      exact ⟨listed, rfl⟩
    · have differs : Expr.aggregateVar number ≠ Expr.aggregateVar values.length :=
        fun same => last (Expr.aggregateVar_injective same)
      have inRange : number < (values ++ [value]).length := (List.getElem?_eq_some_iff.mp listed).1
      rw [List.length_append, List.length_singleton] at inRange
      rw [List.getElem?_append_left (by omega)] at listed
      rw [if_neg differs, if_neg differs]
      exact supplies.bound number other listed
  others reference other := by
    rw [List.length_append, List.length_singleton] at other
    have differs := other values.length (Nat.lt_succ_self _)
    unfold Solution.bindings
    simp only [Solution.lookup_bind, Solution.isExplicitlyUnbound_bind, if_neg differs]
    exact supplies.others reference fun number inRange => other number (Nat.lt_succ_of_lt inRange)

end Bindings.Supplies

/-! ### The value of a hoisted expression -/

namespace Expr

/-- The values of aggregates, number by number. -/
theorem value_of_map_eq {meaning : Expr → Except EvalError Term} {aggregates : List Expr}
    {values : List Term} (same : aggregates.map meaning = values.map .ok) {number : Nat}
    {aggregate : Expr} (listed : aggregates[number]? = some aggregate) :
    ∃ value, values[number]? = some value ∧ meaning aggregate = .ok value := by
  have atNumber : (aggregates.map meaning)[number]? = (values.map .ok)[number]? := by rw [same]
  rw [List.getElem?_map, listed, List.getElem?_map] at atNumber
  obtain ⟨value, isValue, sameValue⟩ := Option.map_eq_some_iff.mp atNumber.symm
  exact ⟨value, isValue, sameValue.symm⟩

/-- What the aggregates put back mean is what the supplied variables have. -/
theorem meaning_restoring {registry : Registry} {grouped bindings : Bindings}
    {aggregates : List Expr} {values : List Term}
    (valued : aggregates.map (registry.meaning bindings) = values.map .ok)
    (supplies : grouped.Supplies bindings values) (reference : Variable) :
    registry.meaning bindings (restoring aggregates reference) = grouped.value reference := by
  have count : aggregates.length = values.length := by
    rw [← List.length_map (registry.meaning bindings), valued, List.length_map]
  by_cases numbered : ∃ number < aggregates.length, reference = aggregateVar number
  · obtain ⟨number, inRange, rfl⟩ := numbered
    have listed := List.getElem?_eq_getElem inRange
    obtain ⟨value, isValue, meansValue⟩ := value_of_map_eq valued listed
    rw [restoring_aggregateVar listed, meansValue, supplies.value_aggregateVar isValue]
  · have other : ∀ number < aggregates.length, reference ≠ aggregateVar number :=
      fun number inRange same => numbered ⟨number, inRange, same⟩
    rw [restoring_other other, Registry.meaning_of_var rfl, supplies.value_other (count ▸ other)]

/-- **The hoisted expression has the value of the expression** when its variables have those of the
aggregates. -/
theorem evaluate_hoisted {evaluator : Evaluator} {options : Options} {bindings grouped : Bindings}
    {values : List Term} {expr : Expr}
    (back : (expr.hoisted (fun number => .var (aggregateVar number)) 0).substituted
      (restoring expr.outermost) = expr)
    (fits : expr.depth ≤ options.maxDepth)
    (valued : expr.outermost.map (evaluator.evaluate options bindings) = values.map .ok)
    (supplies : grouped.Supplies bindings values) :
    evaluator.evaluate options grouped (expr.hoisted (fun number => .var (aggregateVar number)) 0) =
      evaluator.evaluate options bindings expr := by
  have means := Evaluator.map_meaning_of_map_evaluate valued
  have shallower := depth_le_substituted (restoring expr.outermost)
    (expr.hoisted (fun number => .var (aggregateVar number)) 0)
  rw [back] at shallower
  rw [Evaluator.evaluate_of_depth_le (Nat.le_trans shallower fits),
    Evaluator.evaluate_of_depth_le fits,
    ← Registry.meaning_substituted (meaning_restoring means supplies), back]

/-- **Hoisting loses nothing.** The hoisted aggregates are the uncovered ones in pre-order and none
is left. Let no uncovered node be one of their variables or a constant that holds a variable. Then
putting the aggregates back gives the expression back; and where they have values, the hoisted
expression has the value, or the error, of the expression when its variables are given theirs. -/
theorem hoist_lossless (expr : Expr) : ∃ hoisted aggregates,
    expr.hoist (fun number => .var (aggregateVar number)) = .ok (hoisted, aggregates) ∧
    aggregates = expr.uncovered.filter isAggregate ∧ hoisted.NoAggregates ∧
    ((∀ node ∈ expr.uncovered,
        (∀ number < aggregates.length, node ≠ .var (aggregateVar number)) ∧
          ∀ reference, node ≠ .constant (.var reference)) →
      hoisted.replaceVars (fun reference => pure (restoring aggregates reference)) () =
        .ok (expr, ()) ∧
      ∀ (evaluator : Evaluator) (options : Options) (bindings grouped : Bindings)
        (values : List Term), expr.depth ≤ options.maxDepth →
        aggregates.map (evaluator.evaluate options bindings) = values.map .ok →
        grouped.Supplies bindings values →
        evaluator.evaluate options grouped hoisted = evaluator.evaluate options bindings expr) := by
  have variables_noAggregates (number : Nat) : (var (aggregateVar number)).NoAggregates :=
    noAggregates_iff.mpr ⟨rfl, fun _ member => by cases member⟩
  refine ⟨_, _, hoist_eq_ok _ expr, ?_, hoisted_noAggregates variables_noAggregates expr 0,
    fun apart => ?_⟩
  · rw [outermost, surface_eq_uncovered]
  · rw [← surface_eq_uncovered] at apart
    have back := substituted_restoring apart
    refine ⟨?_, fun evaluator options bindings grouped values fits valued supplies => ?_⟩
    · rw [replaceVars_eq_ok, back]
    · exact evaluate_hoisted back fits valued supplies

/-- The same aggregate twice gets two numbers, and both variables their values. -/
theorem hoist_lossless_repeated :
    Evaluator.standard.evaluate {}
        ((Solution.empty.bind (aggregateVar 0) (.literal (.typed "true" Xsd.string))).bind
          (aggregateVar 1) (.literal (.typed "true" Xsd.string))).bindings
        (.call Fn.contains [.var (aggregateVar 0), .var (aggregateVar 1)]) =
      Evaluator.standard.evaluate {} Solution.empty.bindings
        (.call Fn.contains
          [.compound (.constant (.iri Xsd.string)) [.constant (.ofBool true)] true,
            .compound (.constant (.iri Xsd.string)) [.constant (.ofBool true)] true]) := by
  obtain ⟨result, aggregates, hoists, _, _, lossless⟩ := hoist_lossless (.call Fn.contains
    [.compound (.constant (.iri Xsd.string)) [.constant (.ofBool true)] true,
      .compound (.constant (.iri Xsd.string)) [.constant (.ofBool true)] true])
  rw [hoist_eq_ok] at hoists
  cases hoists
  have supplies := ((Bindings.Supplies.refl Solution.empty.bindings).bind
    (.literal (.typed "true" Xsd.string))).bind (.literal (.typed "true" Xsd.string))
  refine (lossless ?_).2 .standard {} Solution.empty.bindings _ _ ?_ rfl supplies
  · rw [← surface_eq_uncovered]
    intro node member
    have notVar : node.var? = none := by
      revert node
      decide
    refine ⟨fun number _ same => ?_, fun reference same => ?_⟩
    · rw [same] at notVar
      cases notVar
    · rw [same] at notVar
      cases notVar
  · rw [depth_eq_height]
    decide

end Expr

end QueryAlgebra
