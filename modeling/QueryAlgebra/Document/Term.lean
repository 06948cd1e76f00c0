/-
**Terms in documents.**

A term is its kind and its value, in either order. IRIs are read as absolute ones, and a literal
with both a datatype and a language is refused when it has been read to its end.
-/
import QueryAlgebra.Document.Record

namespace QueryAlgebra

open Document

namespace Iri

/-- Reads an absolute IRI. -/
def ofJson (value : Json) : Decoded Iri := do
  match Iri.read (← decodeText value) with
  | .ok iri => .ok iri
  | .error error => .error (.model error)

/-- The document of an IRI. -/
def toJson (iri : Iri) : Json := .ofText iri.text

end Iri

namespace Variable

/-- Reads a variable. -/
def ofJson (value : Json) : Decoded Variable := Variable.ofName <$> decodeText value

/-- The document of a variable. -/
def toJson (reference : Variable) : Json := .ofText reference.name

end Variable

namespace BlankNode

/-- Reads a blank node. -/
def ofJson (value : Json) : Decoded BlankNode := BlankNode.mk <$> decodeText value

/-- The document of a blank node. -/
def toJson (node : BlankNode) : Json := .ofText node.label

end BlankNode

namespace Literal

/-- The fields of a literal that were read. -/
structure Fields where
  lexical : Option String := none
  datatype : Option (Option Iri) := none
  language : Option (Option String) := none

/-- Reads a member of a literal. -/
def readField (fields : Fields) (key : String) (value : Json) : Decoded Fields :=
  match key with
  | "lexical" => return { fields with lexical := ← fill fields.lexical (decodeText value) }
  | "datatype" =>
    return { fields with datatype := ← fill fields.datatype (decodeNullable Iri.ofJson value) }
  | "language" =>
    return { fields with language := ← fill fields.language (decodeNullable decodeText value) }
  | _ => pass fields value

/-- The literal of its fields. -/
def ofFields (fields : Fields) : Decoded Literal := do
  let lexical ← require fields.lexical
  match fields.datatype.join, fields.language.join with
  | some _, some _ => .error (.model (.invalidLiteral lexical))
  | some datatype, none => .ok (typed lexical datatype)
  | none, some language => .ok (tagged lexical language)
  | none, none => .ok (simple lexical)

/-- Reads a literal. -/
def ofJson : (levels : Nat) → Json → Decoded Literal
  | 0, _ => .error .malformed
  | _ + 1, value => do
    let members ← recordMembers ["lexical", "datatype", "language"] value
    ofFields (← members.fold readField {})

/-- The document of a literal; what it does not have is left out. -/
def toJson (literal : Literal) : Json :=
  .ofMembers (("lexical", .ofText literal.lexical) ::
    match literal.annotation with
    | .none => []
    | .datatype iri => [("datatype", iri.toJson)]
    | .language tag => [("language", .ofText tag)])

end Literal

namespace Term

/-- The name of a kind of term in documents. -/
def Kind.documentName : Kind → String
  | iri => "Iri"
  | literal => "Literal"
  | blank => "BlankNode"
  | var => "Variable"

/-- Reads a kind of term. -/
def Kind.ofJson (levels : Nat) (value : Json) : Decoded Kind := do
  match ← decodeName levels value with
  | "Iri" => .ok iri
  | "Literal" => .ok literal
  | "BlankNode" => .ok blank
  | "Variable" => .ok var
  | _ => .error .malformed

/-- Reads the value of a term of a known kind. -/
def ofKind (levels : Nat) (value : Json) : Kind → Decoded Term
  | .iri => iri <$> Iri.ofJson value
  | .literal => literal <$> Literal.ofJson levels value
  | .blank => blank <$> BlankNode.ofJson value
  | .var => var <$> Variable.ofJson value

/-- How far a term has been read. -/
inductive Progress
  | nothing
  | kind (kind : Kind)
  /-- The value came first; it is read when the kind is known. -/
  | value (value : Json)
  | complete (term : Term)

/-- Reads a member of a term. -/
def readField (levels : Nat) (progress : Progress) (key : String) (value : Json) :
    Decoded Progress :=
  match key, progress with
  | "type", .nothing => .kind <$> Kind.ofJson levels value
  | "type", .value held => do
    let kind ← Kind.ofJson levels value
    return .complete (← ofKind levels held kind)
  | "type", _ => .error .malformed
  | "value", .nothing => if isReadable levels value then .ok (.value value) else .error .malformed
  | "value", .kind kind => .complete <$> ofKind levels value kind
  | "value", _ => .error .malformed
  | _, _ => pass progress value

/-- Reads a term. -/
def ofJson : (levels : Nat) → Json → Decoded Term
  | 0, _ => .error .malformed
  | levels + 1, value => do
    let members ← recordMembers ["type", "value"] value
    match ← members.fold (readField levels) .nothing with
    | .complete term => .ok term
    | _ => .error .malformed

/-- The document of the value of a term. -/
def valueToJson : Term → Json
  | iri value => value.toJson
  | literal value => value.toJson
  | blank value => value.toJson
  | var value => value.toJson

/-- The document of a term. -/
def toJson (term : Term) : Json :=
  .ofMembers [("type", .ofText term.kind.documentName), ("value", term.valueToJson)]

end Term

end QueryAlgebra
