/-
**Triples and patterns in documents.**

Triple patterns are taken as they are: which kind of term stands where is not checked.
-/
import QueryAlgebra.Document.Term
import QueryAlgebra.Pattern.Basic

namespace QueryAlgebra

open Document

/-- The names of the positions of triples and of triple patterns. -/
def positionNames : List String := ["subject", "predicate", "object"]

namespace Triple

/-- The fields of a triple that were read. -/
structure Fields where
  subject : Option Term := none
  predicate : Option Iri := none
  object : Option Term := none

/-- Reads a member of a triple. -/
def readField (levels : Nat) (fields : Fields) (key : String) (value : Json) : Decoded Fields :=
  match key with
  | "subject" => return { fields with subject := ← fill fields.subject (Term.ofJson levels value) }
  | "predicate" => return { fields with predicate := ← fill fields.predicate (Iri.ofJson value) }
  | "object" => return { fields with object := ← fill fields.object (Term.ofJson levels value) }
  | _ => pass fields value

/-- Reads a triple. -/
def ofJson : (levels : Nat) → Json → Decoded Triple
  | 0, _ => .error .malformed
  | levels + 1, value => do
    let members ← recordMembers positionNames value
    let fields ← members.fold (readField levels) {}
    return ⟨← require fields.subject, ← require fields.predicate, ← require fields.object⟩

/-- The document of a triple. -/
def toJson (triple : Triple) : Json :=
  .ofMembers [("subject", triple.subject.toJson), ("predicate", triple.predicate.toJson),
    ("object", triple.object.toJson)]

end Triple

namespace TriplePattern

/-- The fields of a triple pattern that were read. -/
structure Fields where
  subject : Option Term := none
  predicate : Option Term := none
  object : Option Term := none

/-- Reads a member of a triple pattern. -/
def readField (levels : Nat) (fields : Fields) (key : String) (value : Json) : Decoded Fields :=
  match key with
  | "subject" => return { fields with subject := ← fill fields.subject (Term.ofJson levels value) }
  | "predicate" =>
    return { fields with predicate := ← fill fields.predicate (Term.ofJson levels value) }
  | "object" => return { fields with object := ← fill fields.object (Term.ofJson levels value) }
  | _ => pass fields value

/-- Reads a triple pattern. -/
def ofJson : (levels : Nat) → Json → Decoded TriplePattern
  | 0, _ => .error .malformed
  | levels + 1, value => do
    let members ← recordMembers positionNames value
    let fields ← members.fold (readField levels) {}
    return ⟨← require fields.subject, ← require fields.predicate, ← require fields.object⟩

/-- The document of a triple pattern. -/
def toJson (pattern : TriplePattern) : Json :=
  .ofMembers [("subject", pattern.subject.toJson), ("predicate", pattern.predicate.toJson),
    ("object", pattern.object.toJson)]

end TriplePattern

namespace Pattern

/-- The fields of a pattern that were read. -/
structure Fields where
  triples : Option (List TriplePattern) := none
  graph : Option (Option Term) := none

/-- Reads triple patterns. -/
def triplesOfJson : (levels : Nat) → Json → Decoded (List TriplePattern)
  | 0, _ => .error .malformed
  | levels + 1, value => decodeList (TriplePattern.ofJson levels) value

/-- Reads a member of a pattern. -/
def readField (levels : Nat) (fields : Fields) (key : String) (value : Json) : Decoded Fields :=
  match key with
  | "patterns" =>
    let decoded := triplesOfJson levels value
    return { fields with triples := ← fill fields.triples decoded }
  | "graph_name" =>
    let decoded := decodeNullable (Term.ofJson levels) value
    return { fields with graph := ← fill fields.graph decoded }
  | _ => pass fields value

/-- Reads a pattern. -/
def ofJson : (levels : Nat) → Json → Decoded Pattern
  | 0, _ => .error .malformed
  | levels + 1, value => do
    let members ← recordMembers ["patterns", "graph_name"] value
    let fields ← members.fold (readField levels) {}
    return ⟨← require fields.triples, fields.graph.join⟩

/-- The document of a pattern; the default graph is not named. -/
def toJson (pattern : Pattern) : Json :=
  .ofMembers (("patterns", .ofItems (pattern.triples.map TriplePattern.toJson)) ::
    pattern.graph.toList.map fun graph => ("graph_name", graph.toJson))

end Pattern

end QueryAlgebra
