/-
**What the reader of solutions accepts.**

Every binding of a solution that was read is null or a term, and what was read is valid.
-/
import QueryAlgebra.Document.Solution
import QueryAlgebra.Proofs.Document.Term

namespace QueryAlgebra

open Document

namespace Solution

variable {levels : Nat} {value : Json} {solution : Solution}

/-- A binding puts its variable with nothing or with the term that was read. -/
theorem readBinding_eq_ok {before after : Solution} {name : String} :
    readBinding levels before name value = .ok after ↔
      ∃ value?, decodeNullable (Term.ofJson levels) value = .ok value? ∧
        after = ⟨before.map.put (Variable.ofName name) value?⟩ := by
  unfold readBinding
  rw [bind_eq_ok]
  refine exists_congr fun value? => and_congr_right fun _ => ?_
  cases value? with
  | none => exact ⟨fun same => (Except.ok.inj same).symm, fun same => congrArg Except.ok same.symm⟩
  | some term => exact ⟨fun same => (Except.ok.inj same).symm, fun same => congrArg Except.ok same.symm⟩

/-- Bindings are read from an object. -/
theorem bindingsOfJson_eq_ok : bindingsOfJson (levels + 1) value = .ok solution ↔
    ∃ entries, value = .object entries .closed ∧
      foldEntries (readBinding levels) empty entries = .ok solution := by
  unfold bindingsOfJson
  simp only [bind_eq_ok, fold_eq_ok]
  constructor
  · rintro ⟨members, opens, isRead, closed⟩
    unfold objectMembers at opens
    split at opens
    · cases opens
      cases closed
      exact ⟨_, rfl, isRead⟩
    · cases opens
  · rintro ⟨entries, rfl, isRead⟩
    exact ⟨_, rfl, isRead, rfl⟩

theorem isValid_of_bindingsOfJson (succeeds : bindingsOfJson levels value = .ok solution) :
    solution.IsValid := by
  cases levels with
  | zero => cases succeeds
  | succ levels =>
    obtain ⟨entries, _, isRead⟩ := bindingsOfJson_eq_ok.mp succeeds
    refine foldEntries_keeps isValid_empty ?_ isRead
    intro before name part after valid taken
    obtain ⟨value?, isValue, rfl⟩ := readBinding_eq_ok.mp taken
    refine isValid_put valid fun term isTerm => ?_
    obtain ⟨_, same⟩ | ⟨_, other, isRead, same⟩ := decodeNullable_eq_ok.mp isValue
    · exact absurd (same.symm.trans isTerm) (by simp)
    · obtain rfl := Option.some.inj (same.symm.trans isTerm)
      exact Term.isValid_of_ofJson isRead

/-- What is bound in bindings that were read is a term that was read. -/
theorem ok_of_mem_bindings {members : List (Option String × Json)} {ending : Ending}
    (succeeds : bindingsOfJson (levels + 1) (.object members ending) = .ok solution) {name : String}
    {part : Json} (listed : (some name, part) ∈ members) (present : part ≠ .null) :
    ∃ term, Term.ofJson levels part = .ok term := by
  obtain ⟨_, same, isRead⟩ := bindingsOfJson_eq_ok.mp succeeds
  cases same
  obtain ⟨before, after, taken⟩ := foldEntries_takes isRead listed
  obtain ⟨value?, isValue, _⟩ := readBinding_eq_ok.mp taken
  obtain ⟨absent, _⟩ | ⟨_, term, isTerm, _⟩ := decodeNullable_eq_ok.mp isValue
  · exact absurd absent present
  · exact ⟨term, isTerm⟩

theorem fills_bindings : Fills (readField levels) "bindings" id (bindingsOfJson levels) where
  fills taken := by
    obtain ⟨empty, decoded, isRead, rfl⟩ := fill_eq_ok.mp taken
    exact ⟨empty, decoded, isRead, rfl⟩
  others other taken := by
    unfold readField at taken
    split at taken
    · exact absurd rfl other
    · rw [pass_eq_ok taken]

/-- **The bindings of a solution that was read** are those that stand in the document. -/
theorem ofJson_reads (succeeds : ofJson (levels + 1) value = .ok solution) :
    ReadAt (bindingsOfJson levels) ["bindings"] "bindings" value solution := by
  unfold ofJson at succeeds
  obtain ⟨members, bindings, opens, _, isRead, accepted⟩ := record_eq_ok.mp succeeds
  exact fills_bindings.readAt opens isRead rfl (require_eq_ok.mp accepted)

/-- A solution that was read is valid. -/
theorem isValid_of_ofJson (succeeds : ofJson levels value = .ok solution) : solution.IsValid := by
  cases levels with
  | zero => cases succeeds
  | succ levels =>
    obtain ⟨⟨_, areBindings⟩, _⟩ := ofJson_reads succeeds
    exact isValid_of_bindingsOfJson areBindings

end Solution

/-- Solutions that were read are valid. -/
theorem Solutions.isValid_of_ofJson {levels : Nat} {value : Json} {solutions : Solutions}
    (succeeds : ofJson levels value = .ok solutions) : solutions.IsValid := by
  cases levels with
  | zero => cases succeeds
  | succ levels =>
    intro solution member
    obtain ⟨items, _, areItems⟩ := decodeList_eq_ok.mp succeeds
    obtain ⟨item, _, isItem⟩ := exists_item_of_mem areItems member
    exact Solution.isValid_of_ofJson isItem

end QueryAlgebra
