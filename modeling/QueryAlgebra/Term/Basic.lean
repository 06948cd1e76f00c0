/-
**Terms.**

A term is an IRI, a literal, a blank node or a variable. A variable is a reference that a solution
resolves, not a value. The display of a term is the form it has in messages and S-expressions.
-/
import QueryAlgebra.Term.Literal

namespace QueryAlgebra

/-- A blank node, known by its label. -/
structure BlankNode where
  label : String
  deriving DecidableEq, Repr

namespace BlankNode

/-- A blank node after its mark. -/
def display (node : BlankNode) : List Char := '_' :: ':' :: node.label.toList

end BlankNode

/-- A variable of a query. -/
structure Variable where
  name : String
  deriving DecidableEq, Repr

namespace Variable

/-- Drops one leading question mark or dollar sign. -/
def dropSigil : List Char → List Char
  | '?' :: rest => rest
  | '$' :: rest => rest
  | text => text

/-- The variable of a name that may be written with its sigil. -/
def ofName (name : String) : Variable := ⟨String.ofList (dropSigil name.toList)⟩

/-- A variable after its mark. -/
def display (reference : Variable) : List Char := '?' :: reference.name.toList

end Variable

/-- A term or a variable. -/
inductive Term
  | iri (value : Iri)
  | literal (value : Literal)
  | blank (value : BlankNode)
  | var (value : Variable)
  deriving DecidableEq, Repr

namespace Term

/-- The kinds of term. -/
inductive Kind
  | iri
  | literal
  | blank
  | var
  deriving DecidableEq, Repr

/-- The name of a kind in messages. -/
def Kind.name : Kind → String
  | iri => "IRI"
  | literal => "Literal"
  | blank => "BlankNode"
  | var => "Variable"

/-- The kind of a term. -/
def kind : Term → Kind
  | iri _ => .iri
  | literal _ => .literal
  | blank _ => .blank
  | var _ => .var

/-- The literal of a truth value. -/
def ofBool (value : Bool) : Term := literal (Literal.ofBool value)

/-- The literal of a whole number. -/
def ofInt (value : Int) : Term := literal (Literal.ofInt value)

/-- The IRI of a term that is one. -/
def iri? : Term → Option Iri
  | iri value => some value
  | _ => none

/-- The literal of a term that is one. -/
def literal? : Term → Option Literal
  | literal value => some value
  | _ => none

/-- The variable of a term that is one. -/
def var? : Term → Option Variable
  | var value => some value
  | _ => none

/-- The explicit datatype of a literal. -/
def datatype? (term : Term) : Option Iri := term.literal?.bind Literal.datatype?

/-- The language tag of a literal. -/
def language? (term : Term) : Option String := term.literal?.bind Literal.language?

/-- Whether a term is a literal that is a text. -/
def isPlain (term : Term) : Bool := term.literal?.any Literal.isPlain

/-- The effective boolean value; only literals have one. -/
def booleanValue? (term : Term) : Option Bool := term.literal?.bind Literal.booleanValue?

/-- The text of a term in messages and S-expressions. -/
def display : Term → List Char
  | iri value => value.display
  | literal value => value.display
  | blank value => value.display
  | var value => value.display

/-- The display of a term as a string. -/
def text (term : Term) : String := String.ofList term.display

end Term

end QueryAlgebra
