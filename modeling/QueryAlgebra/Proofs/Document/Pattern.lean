/-
**What the readers of triples and patterns accept.**

The parts of a triple, of a triple pattern and of a pattern that were read are those that stand in
the document, and what was read is valid.
-/
import QueryAlgebra.Document.Pattern
import QueryAlgebra.Proofs.Document.Term

namespace QueryAlgebra

open Document

variable {levels : Nat} {value : Json}

namespace Triple

theorem fills_subject :
    Fills (readField levels) "subject" Fields.subject (Term.ofJson levels) where
  fills taken := get_of_filled taken fun _ => rfl
  others other taken := by
    unfold readField at taken
    split at taken
    · exact absurd rfl other
    · exact get_of_filled_other taken fun _ => rfl
    · exact get_of_filled_other taken fun _ => rfl
    · rw [pass_eq_ok taken]

theorem fills_predicate : Fills (readField levels) "predicate" Fields.predicate Iri.ofJson where
  fills taken := get_of_filled taken fun _ => rfl
  others other taken := by
    unfold readField at taken
    split at taken
    · exact get_of_filled_other taken fun _ => rfl
    · exact absurd rfl other
    · exact get_of_filled_other taken fun _ => rfl
    · rw [pass_eq_ok taken]

theorem fills_object : Fills (readField levels) "object" Fields.object (Term.ofJson levels) where
  fills taken := get_of_filled taken fun _ => rfl
  others other taken := by
    unfold readField at taken
    split at taken
    · exact get_of_filled_other taken fun _ => rfl
    · exact get_of_filled_other taken fun _ => rfl
    · exact absurd rfl other
    · rw [pass_eq_ok taken]

/-- **The parts of a triple that was read** are those that stand in the document. -/
theorem ofJson_reads {triple : Triple} (succeeds : ofJson (levels + 1) value = .ok triple) :
    ReadAt (Term.ofJson levels) positionNames "subject" value triple.subject ∧
    ReadAt Iri.ofJson positionNames "predicate" value triple.predicate ∧
    ReadAt (Term.ofJson levels) positionNames "object" value triple.object := by
  unfold ofJson at succeeds
  obtain ⟨members, fields, opens, _, isRead, accepted⟩ := record_eq_ok.mp succeeds
  obtain ⟨subject, isSubject, accepted⟩ := bind_eq_ok.mp accepted
  obtain ⟨predicate, isPredicate, accepted⟩ := bind_eq_ok.mp accepted
  obtain ⟨object, isObject, same⟩ := bind_eq_ok.mp accepted
  cases same
  exact ⟨fills_subject.readAt opens isRead rfl (require_eq_ok.mp isSubject),
    fills_predicate.readAt opens isRead rfl (require_eq_ok.mp isPredicate),
    fills_object.readAt opens isRead rfl (require_eq_ok.mp isObject)⟩

/-- A triple that was read is valid. -/
theorem isValid_of_ofJson {triple : Triple} (succeeds : ofJson levels value = .ok triple) :
    triple.IsValid := by
  cases levels with
  | zero => cases succeeds
  | succ levels =>
    obtain ⟨⟨⟨_, isSubject⟩, _⟩, ⟨⟨_, isPredicate⟩, _⟩, ⟨_, isObject⟩, _⟩ := ofJson_reads succeeds
    exact ⟨Term.isValid_of_ofJson isSubject, (Iri.ofJson_eq_ok.mp isPredicate).2,
      Term.isValid_of_ofJson isObject⟩

end Triple

namespace TriplePattern

theorem fills_subject :
    Fills (readField levels) "subject" Fields.subject (Term.ofJson levels) where
  fills taken := get_of_filled taken fun _ => rfl
  others other taken := by
    unfold readField at taken
    split at taken
    · exact absurd rfl other
    · exact get_of_filled_other taken fun _ => rfl
    · exact get_of_filled_other taken fun _ => rfl
    · rw [pass_eq_ok taken]

theorem fills_predicate :
    Fills (readField levels) "predicate" Fields.predicate (Term.ofJson levels) where
  fills taken := get_of_filled taken fun _ => rfl
  others other taken := by
    unfold readField at taken
    split at taken
    · exact get_of_filled_other taken fun _ => rfl
    · exact absurd rfl other
    · exact get_of_filled_other taken fun _ => rfl
    · rw [pass_eq_ok taken]

theorem fills_object : Fills (readField levels) "object" Fields.object (Term.ofJson levels) where
  fills taken := get_of_filled taken fun _ => rfl
  others other taken := by
    unfold readField at taken
    split at taken
    · exact get_of_filled_other taken fun _ => rfl
    · exact get_of_filled_other taken fun _ => rfl
    · exact absurd rfl other
    · rw [pass_eq_ok taken]

/-- **The parts of a triple pattern that was read** are those that stand in the document. -/
theorem ofJson_reads {pattern : TriplePattern}
    (succeeds : ofJson (levels + 1) value = .ok pattern) :
    ReadAt (Term.ofJson levels) positionNames "subject" value pattern.subject ∧
    ReadAt (Term.ofJson levels) positionNames "predicate" value pattern.predicate ∧
    ReadAt (Term.ofJson levels) positionNames "object" value pattern.object := by
  unfold ofJson at succeeds
  obtain ⟨members, fields, opens, _, isRead, accepted⟩ := record_eq_ok.mp succeeds
  obtain ⟨subject, isSubject, accepted⟩ := bind_eq_ok.mp accepted
  obtain ⟨predicate, isPredicate, accepted⟩ := bind_eq_ok.mp accepted
  obtain ⟨object, isObject, same⟩ := bind_eq_ok.mp accepted
  cases same
  exact ⟨fills_subject.readAt opens isRead rfl (require_eq_ok.mp isSubject),
    fills_predicate.readAt opens isRead rfl (require_eq_ok.mp isPredicate),
    fills_object.readAt opens isRead rfl (require_eq_ok.mp isObject)⟩

/-- A triple pattern that was read is valid. -/
theorem isValid_of_ofJson {pattern : TriplePattern} (succeeds : ofJson levels value = .ok pattern) :
    pattern.IsValid := by
  cases levels with
  | zero => cases succeeds
  | succ levels =>
    obtain ⟨⟨⟨_, isSubject⟩, _⟩, ⟨⟨_, isPredicate⟩, _⟩, ⟨_, isObject⟩, _⟩ := ofJson_reads succeeds
    exact ⟨Term.isValid_of_ofJson isSubject, Term.isValid_of_ofJson isPredicate,
      Term.isValid_of_ofJson isObject⟩

end TriplePattern

namespace Pattern

/-- The names of the fields of a pattern in documents. -/
abbrev fieldNames : List String := ["patterns", "graph_name"]

theorem fills_triples :
    Fills (readField levels) "patterns" Fields.triples (triplesOfJson levels) where
  fills taken := get_of_filled taken fun _ => rfl
  others other taken := by
    unfold readField at taken
    split at taken
    · exact absurd rfl other
    · exact get_of_filled_other taken fun _ => rfl
    · rw [pass_eq_ok taken]

theorem fills_graph :
    Fills (readField levels) "graph_name" Fields.graph (decodeNullable (Term.ofJson levels)) where
  fills taken := get_of_filled taken fun _ => rfl
  others other taken := by
    unfold readField at taken
    split at taken
    · exact get_of_filled_other taken fun _ => rfl
    · exact absurd rfl other
    · rw [pass_eq_ok taken]

/-- **The parts of a pattern that was read** are those that stand in the document; a graph that is
null is the default graph. -/
theorem ofJson_reads {pattern : Pattern} (succeeds : ofJson (levels + 1) value = .ok pattern) :
    ReadAt (triplesOfJson levels) fieldNames "patterns" value pattern.triples ∧
    ReadAtOptional (Term.ofJson levels) fieldNames "graph_name" value pattern.graph := by
  unfold ofJson at succeeds
  obtain ⟨members, fields, opens, _, isRead, accepted⟩ := record_eq_ok.mp succeeds
  obtain ⟨triples, areTriples, same⟩ := bind_eq_ok.mp accepted
  cases same
  exact ⟨fills_triples.readAt opens isRead rfl (require_eq_ok.mp areTriples),
    fills_graph.readAtOptional opens isRead rfl⟩

/-- A pattern that was read is valid. -/
theorem isValid_of_ofJson {pattern : Pattern} (succeeds : ofJson levels value = .ok pattern) :
    pattern.IsValid := by
  cases levels with
  | zero => cases succeeds
  | succ levels =>
    obtain ⟨⟨⟨_, areTriples⟩, _⟩, atGraph⟩ := ofJson_reads succeeds
    refine ⟨fun triple member => ?_, fun graph isGraph => ?_⟩
    · cases levels with
      | zero => cases areTriples
      | succ levels =>
        obtain ⟨items, _, areItems⟩ := decodeList_eq_ok.mp areTriples
        obtain ⟨item, _, isItem⟩ := exists_item_of_mem areItems member
        exact TriplePattern.isValid_of_ofJson isItem
    · obtain ⟨part, isPart⟩ := atGraph.source isGraph
      exact Term.isValid_of_ofJson isPart

end Pattern

end QueryAlgebra
