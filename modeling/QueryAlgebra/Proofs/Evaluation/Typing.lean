/-
**Which values the standard evaluator gives.**

A compound has a value only where its tag and its arguments have values and the function that they
select gives one (`evaluate_compound_eq_ok`). With the standard functions the value of the tag is
the name of one of them, whatever expression the tag is, and the value of the compound is the literal
that the name tells (`standard_value_typed`): no compound has an IRI, a blank node or a variable as
its value.
-/
import QueryAlgebra.Proofs.Evaluation.Provenance
import QueryAlgebra.Proofs.Function.Results

namespace QueryAlgebra

/-- A value of a call of standard functions is that of the function which the tag names. -/
theorem Registry.standard_apply_ok {tag value : Term} {args : List Term}
    (succeeds : Registry.standard.apply tag args = .ok value) :
    ∃ name function, tag = .iri name ∧ (name, args.length, function) ∈ standardFunctions ∧
      function args = .ok value := by
  unfold apply at succeeds
  cases found : Registry.standard.get tag args.length with
  | none =>
    rw [found] at succeeds
    cases succeeds
  | some function =>
    rw [found] at succeeds
    obtain ⟨name, isName, member⟩ := mem_standardFunctions_of_get found
    exact ⟨name, function, isName, member, succeeds⟩

namespace Evaluator

variable {evaluator : Evaluator} {options : Options} {bindings : Bindings}

/-- The value of a compound is that of the call of the value of its tag on the values of its
arguments. -/
theorem evaluate_compound_eq_ok {tag : Expr} {args : List Expr} {aggregate : Bool} {value : Term}
    (succeeds : evaluator.evaluate options bindings (.compound tag args aggregate) = .ok value) :
    ∃ tagValue values, evaluator.evaluate options bindings tag = .ok tagValue ∧
      args.map (evaluator.evaluate options bindings) = values.map .ok ∧
      evaluator.registry.apply tagValue values = .ok value := by
  have within := Registry.within_of_fits (Registry.fits_of_reduce_ok succeeds)
  have call := (Registry.reduce_compound tag args aggregate within).symm.trans succeeds
  obtain ⟨tagValue, tagFound, call⟩ := bind_eq_ok.mp call
  obtain ⟨values, argsFound, call⟩ := bind_eq_ok.mp call
  -- the operands stand one level below the compound, and have their values at the top as well
  have below : 1 ≤ 1 + 1 := Nat.le_succ 1
  exact ⟨tagValue, values, Registry.reduce_ok_of_le below tagFound,
    Registry.map_reduce_of_reduceAll_ok (Registry.reduceAll_ok_of_le below argsFound), call⟩

/-- **The values of the standard evaluator are typed.** Where a compound has a value, its tag has the
name of a standard function of as many arguments as value, whatever expression it is, and the value
is the result of this function on the values of the arguments: a literal as the name tells. -/
theorem standard_value_typed (options : Options) (bindings : Bindings) (tag : Expr)
    (args : List Expr) (aggregate : Bool) (value : Term)
    (succeeds : standard.evaluate options bindings (.compound tag args aggregate) = .ok value) :
    ∃ name function values result,
      standard.evaluate options bindings tag = .ok (.iri name) ∧
      args.map (standard.evaluate options bindings) = values.map .ok ∧
      (name, args.length, function) ∈ standardFunctions ∧ function values = .ok value ∧
      value = .literal result ∧ IsStandardResult name values result := by
  obtain ⟨tagValue, values, tagFound, argsFound, call⟩ := evaluate_compound_eq_ok succeeds
  obtain ⟨name, function, rfl, member, gives⟩ := Registry.standard_apply_ok call
  obtain ⟨result, isLiteral, isResult⟩ := standard_hasResults member values value gives
  have count : values.length = args.length := by
    have lengths := congrArg List.length argsFound
    rw [List.length_map, List.length_map] at lengths
    exact lengths.symm
  rw [count] at member
  exact ⟨name, function, values, result, tagFound, argsFound, member, gives, isLiteral, isResult⟩

/-- A tag that is a variable names the function, here the length of an upper case. -/
theorem standard_value_typed_computed :
    standard.evaluate {} (Solution.empty.bind ⟨"f"⟩ (.iri Fn.stringLength)).bindings
        (.compound (.var ⟨"f"⟩)
          [.call Fn.upperCase [.constant (.literal (.tagged "ß" "DE"))]] false) =
      .ok (.ofInt 2) ∧
    ∃ name function values result,
      standard.evaluate {} (Solution.empty.bind ⟨"f"⟩ (.iri Fn.stringLength)).bindings
        (.var ⟨"f"⟩) = .ok (.iri name) ∧
      [Expr.call Fn.upperCase [.constant (.literal (.tagged "ß" "DE"))]].map
        (standard.evaluate {} (Solution.empty.bind ⟨"f"⟩ (.iri Fn.stringLength)).bindings) =
          values.map .ok ∧
      (name, 1, function) ∈ standardFunctions ∧ function values = .ok (.ofInt 2) ∧
      Term.ofInt 2 = .literal result ∧ IsStandardResult name values result := by
  have succeeds : standard.evaluate {} (Solution.empty.bind ⟨"f"⟩ (.iri Fn.stringLength)).bindings
      (.compound (.var ⟨"f"⟩)
        [.call Fn.upperCase [.constant (.literal (.tagged "ß" "DE"))]] false) =
          .ok (.ofInt 2) := by
    rfl
  exact ⟨succeeds, standard_value_typed _ _ _ _ _ _ succeeds⟩

end Evaluator

end QueryAlgebra
