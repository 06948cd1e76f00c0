/-
**Literals.**

A literal is a lexical form with a datatype, a language tag or neither, never both. Language tags do
not distinguish case and are kept in lower case. `Literal.booleanValue?` is the effective boolean
value: the truth value that a literal stands for in a condition, if its datatype has one.
-/
import QueryAlgebra.Decimal.Reader
import QueryAlgebra.Floating.Numeral
import QueryAlgebra.Text.Casing
import QueryAlgebra.Vocabulary

namespace QueryAlgebra

open Text

/-- What a literal has beside its lexical form. -/
inductive Annotation
  | none
  | datatype (iri : Iri)
  | language (tag : String)
  deriving DecidableEq, Repr

/-- A literal. -/
structure Literal where
  lexical : String
  annotation : Annotation
  deriving DecidableEq, Repr

namespace Literal

/-- A literal with neither datatype nor language. -/
def simple (lexical : String) : Literal := ⟨lexical, .none⟩

/-- A literal with a datatype. -/
def typed (lexical : String) (datatype : Iri) : Literal := ⟨lexical, .datatype datatype⟩

/-- A literal with a language tag, which is put in lower case. -/
def tagged (lexical tag : String) : Literal :=
  ⟨lexical, .language (String.ofList (lowerAscii tag.toList))⟩

/-- The literal of a truth value. -/
def ofBool (value : Bool) : Literal := typed (if value then "true" else "false") Xsd.boolean

/-- The literal of a whole number. -/
def ofInt (value : Int) : Literal := typed (String.ofList (signedDigits value)) Xsd.integer

/-- The literal of a decimal, in canonical form. -/
def ofDecimal (value : Decimal) : Literal := typed value.canonical Xsd.decimal

/-- The explicit datatype. -/
def datatype? (literal : Literal) : Option Iri :=
  match literal.annotation with
  | .datatype iri => some iri
  | _ => none

/-- The language tag. -/
def language? (literal : Literal) : Option String :=
  match literal.annotation with
  | .language tag => some tag
  | _ => none

/-- The datatype that a literal has, explicit or not. -/
def effectiveDatatype (literal : Literal) : Iri :=
  match literal.annotation with
  | .none => Xsd.string
  | .datatype iri => iri
  | .language _ => Rdf.langString

/-- Whether a literal is a text: simple, tagged, or of datatype `xsd:string`. -/
def isPlain (literal : Literal) : Bool :=
  match literal.annotation with
  | .datatype iri => iri == Xsd.string
  | _ => true

/-- Whether the datatype of a literal is one of numbers. -/
def isNumeric (literal : Literal) : Bool :=
  match literal.annotation with
  | .datatype iri => Xsd.isNumeric iri
  | _ => false

/-- The lexical form without surrounding blanks. -/
def trimmed (literal : Literal) : List Char := trim literal.lexical.toList

/-- Drops an optional sign. -/
def dropSign : List Char → List Char
  | '+' :: rest => rest
  | '-' :: rest => rest
  | text => text

/-- Whether a text is an optional sign and one or more digits. -/
def isIntegerNumeral (text : List Char) : Bool :=
  let digits := dropSign text
  !digits.isEmpty && digits.all isDigit

/-- The effective boolean value. A text is true when it is not empty, a number when it is neither
zero nor missing; a malformed lexical form is false. -/
def booleanValue? (literal : Literal) : Option Bool :=
  match literal.annotation with
  | .none | .language _ => some (literal.lexical != "")
  | .datatype iri =>
    let text := literal.trimmed
    match Xsd.valueSpace iri with
    | .string => some (literal.lexical != "")
    | .boolean => some (text == ['t', 'r', 'u', 'e'] || text == ['1'])
    | .integer => some (isIntegerNumeral text && (dropSign text).any (· != '0'))
    | .decimal =>
      some (match Decimal.ofText? text with
        | some value => !value.isZero
        | none => false)
    | .floating =>
      some (match Floating.ofText? text with
        | some value => !value.isZeroOrNan
        | none => false)
    | .other => none

/-- A character of a lexical form as it is displayed between quotation marks. -/
def displayChar (c : Char) : List Char :=
  if c = '"' then ['\\', '"']
  else if c = '\\' then ['\\', '\\']
  else if c = '\n' then ['\\', 'n']
  else if c = '\r' then ['\\', 'r']
  else if c = '\t' then ['\\', 't']
  else [c]

/-- The display of what stands after the lexical form. -/
def displayAnnotation : Annotation → List Char
  | .none => []
  | .datatype iri => '^' :: '^' :: iri.display
  | .language tag => '@' :: tag.toList

/-- A literal between quotation marks, with its datatype or language after it. -/
def display (literal : Literal) : List Char :=
  '"' :: literal.lexical.toList.flatMap displayChar ++ '"' :: displayAnnotation literal.annotation

end Literal

end QueryAlgebra
