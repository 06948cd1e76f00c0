/-
**Solutions as bindings.**

What an expression is told of a variable after one has been bound. Solutions agree exactly when they
say the same of every variable (`agrees_iff_find?`), so they are the same bindings
(`bindings_eq_of_agrees`).
-/
import QueryAlgebra.Proofs.OrderedMap
import QueryAlgebra.Solution

namespace QueryAlgebra.Solution

section Bind

variable (solution : Solution) (added reference : Variable) (value : Term)

/-- A bound variable has its value, and every other variable what it had. -/
theorem lookup_bind : (solution.bind added value).lookup reference =
    if reference = added then some value else solution.lookup reference := by
  unfold lookup bind
  rw [OrderedMap.find?_put]
  by_cases same : reference = added
  · rw [if_pos same, if_pos same]
    rfl
  · rw [if_neg same, if_neg same]

/-- A bound variable is not listed without a value. -/
theorem isExplicitlyUnbound_bind : (solution.bind added value).isExplicitlyUnbound reference =
    if reference = added then false else solution.isExplicitlyUnbound reference := by
  unfold isExplicitlyUnbound bind
  rw [OrderedMap.find?_put]
  by_cases same : reference = added
  · rw [if_pos same, if_pos same]
    rfl
  · rw [if_neg same, if_neg same]

end Bind

/-! ### Solutions that agree -/

section Agrees

variable {solution other : Solution}

theorem agrees_iff : solution.agrees other = true ↔
    solution.size = other.size ∧
      ∀ entry ∈ solution.map.entries, other.map.find? entry.1 = some entry.2 := by
  simp only [agrees, Bool.and_eq_true, beq_iff_eq, List.all_eq_true]

theorem agrees_self (solution : Solution) : solution.agrees solution = true :=
  agrees_iff.mpr ⟨rfl, fun _ member => OrderedMap.find?_of_mem member⟩

/-- **Solutions agree when they say the same of every variable**, in whatever order they list them. -/
theorem agrees_iff_find? : solution.agrees other = true ↔
    ∀ reference, solution.map.find? reference = other.map.find? reference := by
  rw [agrees_iff]
  constructor
  · rintro ⟨count, included⟩
    exact OrderedMap.find?_eq_of_included (Nat.le_of_eq count.symm) included
  · intro same
    refine ⟨OrderedMap.size_eq_of_find?_eq same, fun entry member => ?_⟩
    rw [← same]
    exact OrderedMap.find?_of_mem member

/-- An expression is told the same by solutions that agree. -/
theorem bindings_eq_of_agrees (agree : solution.agrees other = true) :
    solution.bindings = other.bindings := by
  have same := agrees_iff_find?.mp agree
  have lookups : solution.lookup = other.lookup := by
    funext reference
    unfold lookup
    rw [same]
  have declarations : solution.isExplicitlyUnbound = other.isExplicitlyUnbound := by
    funext reference
    unfold isExplicitlyUnbound
    rw [same]
  rw [bindings, bindings, lookups, declarations]

end Agrees

end QueryAlgebra.Solution
