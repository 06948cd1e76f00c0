/-
**Looking functions up.**

What a registry holds under a key after a registration, and where the functions of the standard
registry come from.
-/
import QueryAlgebra.Function.Standard

namespace QueryAlgebra.Registry

/-- A function is found under the key that it was registered under, and nothing changes elsewhere. -/
theorem get_register (registry : Registry) (tag other : Term) (arity count : Nat)
    (function : ExtensionFunction) :
    (registry.register tag arity function).get other count =
      if other = tag ∧ count = arity then some function else registry.get other count := by
  unfold get register
  rw [OrderedMap.find?_put]
  simp only [FunctionKey.mk.injEq]

/-- A function that is found after registrations in a row is one of them or was there before. -/
theorem get_registerAll {entries : List (Iri × Nat × ExtensionFunction)} {registry : Registry}
    {tag : Term} {arity : Nat} {function : ExtensionFunction}
    (found : (entries.foldl (fun registry (name, arity, function) =>
      registry.register (.iri name) arity function) registry).get tag arity = some function) :
    (∃ name, tag = .iri name ∧ (name, arity, function) ∈ entries) ∨
      registry.get tag arity = some function := by
  induction entries generalizing registry with
  | nil => exact .inr found
  | cons entry rest inRest =>
    obtain ⟨name, count, first⟩ := entry
    rcases inRest found with ⟨other, same, member⟩ | before
    · exact .inl ⟨other, same, .tail _ member⟩
    · rw [get_register] at before
      by_cases here : tag = .iri name ∧ arity = count
      · rw [if_pos here] at before
        obtain ⟨same, rfl⟩ := here
        cases before
        exact .inl ⟨name, same, List.mem_cons_self⟩
      · rw [if_neg here] at before
        exact .inr before

/-- A key that has a function before registrations in a row, or is among them, has one afterwards. -/
theorem get_registerAll_ne_none {entries : List (Iri × Nat × ExtensionFunction)}
    {registry : Registry} {name : Iri} {arity : Nat}
    (there : registry.get (.iri name) arity ≠ none ∨
      ∃ function, (name, arity, function) ∈ entries) :
    (entries.foldl (fun registry (name, arity, function) =>
      registry.register (.iri name) arity function) registry).get (.iri name) arity ≠ none := by
  induction entries generalizing registry with
  | nil => exact there.resolve_right fun ⟨_, member⟩ => by cases member
  | cons entry rest inRest =>
    obtain ⟨other, count, first⟩ := entry
    refine inRest ?_
    rw [get_register]
    by_cases here : Term.iri name = .iri other ∧ arity = count
    · rw [if_pos here]
      exact .inl nofun
    · rw [if_neg here]
      refine there.imp_right fun ⟨function, member⟩ => ⟨function, ?_⟩
      rcases List.mem_cons.mp member with same | member
      · cases same
        exact absurd ⟨rfl, rfl⟩ here
      · exact member

/-- **The functions of the standard registry are the standard functions.** -/
theorem mem_standardFunctions_of_get {tag : Term} {arity : Nat} {function : ExtensionFunction}
    (found : Registry.standard.get tag arity = some function) :
    ∃ name, tag = .iri name ∧ (name, arity, function) ∈ standardFunctions := by
  rcases get_registerAll found with member | nothing
  · exact member
  · cases nothing

/-- A key without a function is not that of a standard function. -/
theorem not_mem_standardFunctions_of_get {name : Iri} {arity : Nat} {function : ExtensionFunction}
    (absent : Registry.standard.get (.iri name) arity = none) :
    (name, arity, function) ∉ standardFunctions :=
  fun member => get_registerAll_ne_none (.inr ⟨function, member⟩) absent

end QueryAlgebra.Registry
