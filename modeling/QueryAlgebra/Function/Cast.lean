/-
**Casts between datatypes.**

A cast reads the lexical form of a literal by the rules of its datatype and writes the value by the
rules of the target, always in canonical form. Blanks around a lexical form do not count. An IRI
casts to a text only, and a language-tagged literal does not cast at all.
-/
import QueryAlgebra.Decimal.Binary
import QueryAlgebra.Floating.Canonical
import QueryAlgebra.Function.Arguments

namespace QueryAlgebra.Cast

/-- The number that a literal denotes. -/
inductive Number
  | exact (value : Decimal)
  | floating (value : Floating)

/-- Whether a number is zero or missing. -/
def Number.isZeroOrNan : Number → Bool
  | exact value => value.isZero
  | floating value => value.isZeroOrNan

/-- The number that a literal of a numeric datatype denotes. -/
def numberOf? (literal : Literal) : Option Number :=
  match Xsd.valueSpace literal.effectiveDatatype with
  | .integer | .decimal => (Decimal.ofText? literal.trimmed).map .exact
  | .floating => (Floating.ofLexical? literal.trimmed).map .floating
  | .string | .boolean | .other => none

/-- Reads a truth value. -/
def truthOf? (text : List Char) : Option Bool :=
  if text = ['t', 'r', 'u', 'e'] ∨ text = ['1'] then some true
  else if text = ['f', 'a', 'l', 's', 'e'] ∨ text = ['0'] then some false
  else none

/-- The literal to cast. -/
def castable (target : Iri) : Term → Except EvalError Literal
  | .literal literal =>
    match literal.annotation with
    | .language _ =>
      .error (.castFailed (.datatype literal.effectiveDatatype) target .languageTagged)
    | _ => .ok literal
  | .iri _ => .error (.castFailed .iri target .iriSource)
  | term => .error (.typeMismatch (.notCastable term.kind))

/-- The failure of casting a literal. -/
def failure (literal : Literal) (target : Iri) (fault : CastFault) : EvalError :=
  .castFailed (.datatype literal.effectiveDatatype) target fault

/-- The failure of casting a literal whose lexical form is malformed. -/
def malformed (literal : Literal) (target : Iri) : EvalError :=
  failure literal target (.invalidLexical literal.lexical)

/-- A value that was read, or the failure of a malformed lexical form. -/
def wellFormed {α : Type} (literal : Literal) (target : Iri) : Option α → Except EvalError α
  | some value => .ok value
  | none => .error (malformed literal target)

/-- The decimal of a number that a floating-point number is near, or the failure for want of one. -/
def exactly (literal : Literal) (target : Iri) (value : Floating) : Except EvalError Decimal :=
  if value.isFinite then
    match Decimal.ofFloating? value with
    | some decimal => .ok decimal
    | none => .error (failure literal target .outOfRange)
  else .error (failure literal target .notFinite)

/-- The value of a literal of a target, by the value space of its datatype. -/
def valueOf {α : Type} (target : Iri) (ofString : List Char → Option α) (ofTruth : Bool → α)
    (ofNumber : Literal → Number → Except EvalError α) (literal : Literal) : Except EvalError α :=
  match Xsd.valueSpace literal.effectiveDatatype with
  | .string => wellFormed literal target (ofString literal.trimmed)
  | .boolean => wellFormed literal target ((truthOf? literal.trimmed).map ofTruth)
  | .integer | .decimal | .floating =>
    match numberOf? literal with
    | some number => ofNumber literal number
    | none => .error (malformed literal target)
  | .other => .error (failure literal target .unsupportedSource)

/-- The whole number that a number is cut to. -/
def wholeOf (literal : Literal) : Number → Except EvalError Decimal
  | .exact value => .ok value.truncate
  | .floating value => exactly literal Xsd.integer value.truncate

/-- The decimal of a number. -/
def decimalOf (literal : Literal) : Number → Except EvalError Decimal
  | .exact value => .ok value
  | .floating value => exactly literal Xsd.decimal value

/-- The floating-point number of a number. -/
def floatingOf : Number → Floating
  | .exact value => value.toFloating
  | .floating value => value

/-- The floating-point number of a truth value. -/
def floatingOfBool (value : Bool) : Floating := (Decimal.ofBool value).toFloating

/-- Reads a whole number, digits with an optional sign. -/
def wholeOfText? (text : List Char) : Option Decimal :=
  if Literal.isIntegerNumeral text then Decimal.ofText? text else none

/-- Reads a decimal without an exponent. -/
def decimalOfText? (text : List Char) : Option Decimal :=
  if text.any Decimal.isExponentMark then none else Decimal.ofText? text

/-- The cast to `xsd:string`. -/
def toXsdString : Term → Except EvalError Term
  | .iri iri => .ok (.literal (.typed iri.text Xsd.string))
  | term => do
    let literal ← castable Xsd.string term
    return .literal (.typed literal.lexical Xsd.string)

/-- The cast to `xsd:boolean`. -/
def toXsdBoolean (term : Term) : Except EvalError Term := do
  let literal ← castable Xsd.boolean term
  let value ← valueOf Xsd.boolean truthOf? id (fun _ number => .ok !number.isZeroOrNan) literal
  return .ofBool value

/-- The cast to `xsd:integer`. -/
def toXsdInteger (term : Term) : Except EvalError Term := do
  let literal ← castable Xsd.integer term
  let value ← valueOf Xsd.integer wholeOfText? Decimal.ofBool wholeOf literal
  return .literal (.typed value.canonical Xsd.integer)

/-- The cast to `xsd:decimal`. -/
def toXsdDecimal (term : Term) : Except EvalError Term := do
  let literal ← castable Xsd.decimal term
  let value ← valueOf Xsd.decimal decimalOfText? Decimal.ofBool decimalOf literal
  return .literal (.ofDecimal value)

/-- The cast to a floating-point datatype, whose numbers are those of a binary format. -/
def toXsdFloating (target : Iri) (format : BinaryFormat) (term : Term) : Except EvalError Term := do
  let literal ← castable target term
  let value ← valueOf target Floating.ofLexical? floatingOfBool
    (fun _ number => .ok (floatingOf number)) literal
  return .literal (.typed ((value.convert format).convert .double).canonical target)

end QueryAlgebra.Cast
