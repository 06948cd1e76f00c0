/-
**The vocabulary of datatypes and functions.**

The datatypes of XML Schema that have numbers, texts and truth values, the datatype of tagged texts,
and the names of the standard functions.
-/
import QueryAlgebra.Term.Iri

namespace QueryAlgebra

namespace Xsd

def string : Iri := ⟨"http://www.w3.org/2001/XMLSchema#string"⟩
def boolean : Iri := ⟨"http://www.w3.org/2001/XMLSchema#boolean"⟩
def decimal : Iri := ⟨"http://www.w3.org/2001/XMLSchema#decimal"⟩
def integer : Iri := ⟨"http://www.w3.org/2001/XMLSchema#integer"⟩
def double : Iri := ⟨"http://www.w3.org/2001/XMLSchema#double"⟩
def float : Iri := ⟨"http://www.w3.org/2001/XMLSchema#float"⟩

/-- `xsd:integer` and the datatypes derived from it. -/
def integerTypes : List Iri := [
  integer,
  ⟨"http://www.w3.org/2001/XMLSchema#long"⟩,
  ⟨"http://www.w3.org/2001/XMLSchema#int"⟩,
  ⟨"http://www.w3.org/2001/XMLSchema#short"⟩,
  ⟨"http://www.w3.org/2001/XMLSchema#byte"⟩,
  ⟨"http://www.w3.org/2001/XMLSchema#nonNegativeInteger"⟩,
  ⟨"http://www.w3.org/2001/XMLSchema#nonPositiveInteger"⟩,
  ⟨"http://www.w3.org/2001/XMLSchema#negativeInteger"⟩,
  ⟨"http://www.w3.org/2001/XMLSchema#positiveInteger"⟩,
  ⟨"http://www.w3.org/2001/XMLSchema#unsignedLong"⟩,
  ⟨"http://www.w3.org/2001/XMLSchema#unsignedInt"⟩,
  ⟨"http://www.w3.org/2001/XMLSchema#unsignedShort"⟩,
  ⟨"http://www.w3.org/2001/XMLSchema#unsignedByte"⟩]

/-- The kinds of value space that a datatype can have. -/
inductive ValueSpace
  | string
  | boolean
  | integer
  | decimal
  | floating
  | other
  deriving DecidableEq, Repr

/-- The value space of a datatype. -/
def valueSpace (datatype : Iri) : ValueSpace :=
  if datatype = string then .string
  else if datatype = boolean then .boolean
  else if integerTypes.contains datatype then .integer
  else if datatype = decimal then .decimal
  else if datatype = double ∨ datatype = float then .floating
  else .other

/-- Whether the values of a datatype are numbers. -/
def isNumeric (datatype : Iri) : Bool :=
  match valueSpace datatype with
  | .integer | .decimal | .floating => true
  | .string | .boolean | .other => false

end Xsd

namespace Rdf

/-- The datatype of language-tagged texts. -/
def langString : Iri := ⟨"http://www.w3.org/1999/02/22-rdf-syntax-ns#langString"⟩

end Rdf

namespace Fn

def startsWith : Iri := ⟨"http://www.w3.org/2005/xpath-functions#starts-with"⟩
def endsWith : Iri := ⟨"http://www.w3.org/2005/xpath-functions#ends-with"⟩
def contains : Iri := ⟨"http://www.w3.org/2005/xpath-functions#contains"⟩
def stringLength : Iri := ⟨"http://www.w3.org/2005/xpath-functions#string-length"⟩
def upperCase : Iri := ⟨"http://www.w3.org/2005/xpath-functions#upper-case"⟩
def lowerCase : Iri := ⟨"http://www.w3.org/2005/xpath-functions#lower-case"⟩
def not : Iri := ⟨"http://www.w3.org/2005/xpath-functions#not"⟩
def boolean : Iri := ⟨"http://www.w3.org/2005/xpath-functions#boolean"⟩

end Fn

end QueryAlgebra
