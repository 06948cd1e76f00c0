/-
**The errors of evaluation.**

Each error names its cause; `EvalError.message` words it. A registered function or a store may also
report a cause in words of its own.
-/
import QueryAlgebra.Query.Shape
import QueryAlgebra.Term.Basic

namespace QueryAlgebra

/-- Something other than what an operation takes. -/
inductive Mismatch
  /-- A cast takes a literal or an IRI. -/
  | notCastable (kind : Term.Kind)
  /-- A function was called with a wrong number of arguments. -/
  | argumentCount (expected given : Nat)
  /-- A function on texts takes a literal that is a text. -/
  | notText (term : Term)
  /-- A condition takes a term with an effective boolean value. -/
  | notBoolean (term : Term)
  /-- A query for solutions gave a result of another shape. -/
  | notSolutions (shape : QueryShape)
  /-- A filter takes solutions. -/
  | notFilterable (shape : QueryShape)
  | worded (expected found : String)
  deriving DecidableEq, Repr

namespace Mismatch

/-- A count of arguments in words. -/
def countText (count : Nat) : String :=
  String.ofList (Text.digitsOf count) ++ if count = 1 then " argument" else " arguments"

/-- What was expected. -/
def expected : Mismatch → String
  | notCastable _ => "literal or IRI"
  | argumentCount expected _ => countText expected
  | notText _ => "string literal"
  | notBoolean _ => "term with an effective boolean value"
  | notSolutions _ => "solutions"
  | notFilterable _ => "solutions"
  | worded expected _ => expected

/-- What was found. -/
def found : Mismatch → String
  | notCastable kind => kind.name
  | argumentCount _ given => String.ofList (Text.digitsOf given) ++ " arguments"
  | notText term => term.text
  | notBoolean term => term.text
  | notSolutions shape => shape.title ++ " result"
  | notFilterable shape => "\"" ++ shape.name ++ "\""
  | worded _ found => found

end Mismatch

/-- What a cast starts from. -/
inductive CastSource
  | iri
  | datatype (iri : Iri)
  | worded (name : String)
  deriving DecidableEq, Repr

/-- The name of what a cast starts from. -/
def CastSource.name : CastSource → String
  | iri => "IRI"
  | datatype target => target.text
  | worded name => name

/-- Why a cast fails. -/
inductive CastFault
  | languageTagged
  | iriSource
  | unsupportedSource
  | invalidLexical (lexical : String)
  | notFinite
  | outOfRange
  | worded (message : String)
  deriving DecidableEq, Repr

/-- The wording of why a cast fails. -/
def CastFault.message : CastFault → String
  | languageTagged => "language-tagged literals cannot be cast"
  | iriSource => "only xsd:string accepts an IRI"
  | unsupportedSource => "unsupported source datatype"
  | invalidLexical lexical => "invalid lexical form " ++ Text.quoted lexical
  | notFinite => "value is not finite"
  | outOfRange => "Error while converting to Decimal"
  | worded message => message

/-- The errors of evaluating an expression and of answering a query. -/
inductive EvalError
  /-- A variable has no value; `declared` tells whether the solution lists it. -/
  | unboundVariable (name : String) (declared : Bool)
  /-- No function is registered for a tag and a number of arguments. -/
  | unknownOperator (tag : Term) (arity : Nat)
  /-- An operator is unknown by the name that it is reported under. -/
  | unknownName (name : String) (arity : Nat)
  /-- A node of the algebra has no way to execute. -/
  | notImplemented (tag : String)
  | typeMismatch (mismatch : Mismatch)
  /-- Two texts cannot be compared because of their languages. -/
  | incompatibleArguments (operator : Iri) (left right : Term)
  /-- Arguments are reported in words not to go together. -/
  | incompatibleTexts (operator left right : String)
  | castFailed (source : CastSource) (target : Iri) (fault : CastFault)
  /-- The expression is nested deeper than allowed. -/
  | recursionLimit
  /-- The store takes no queries. -/
  | notQueryable
  /-- The store reports an error of its own. -/
  | store (message : String)
  deriving DecidableEq, Repr

namespace EvalError

/-- The wording of an error. -/
def message : EvalError → String
  | unboundVariable name _ => "Unbound variable: ?" ++ name
  | unknownOperator tag arity =>
    "Unknown operator " ++ tag.text ++ " with " ++ String.ofList (Text.digitsOf arity) ++
      " operand(s)"
  | unknownName name arity =>
    "Unknown operator " ++ name ++ " with " ++ String.ofList (Text.digitsOf arity) ++ " operand(s)"
  | notImplemented tag => "Algebra operator '" ++ tag ++ "' not implemented"
  | typeMismatch mismatch =>
    "Type mismatch: expected " ++ mismatch.expected ++ ", found " ++ mismatch.found
  | incompatibleArguments operator left right =>
    "Incompatible arguments for " ++ operator.text ++ ": " ++ left.text ++ " and " ++ right.text
  | incompatibleTexts operator left right =>
    "Incompatible arguments for " ++ operator ++ ": " ++ left ++ " and " ++ right
  | castFailed source target fault =>
    "Cannot cast " ++ source.name ++ " to " ++ target.text ++ ": " ++ fault.message
  | recursionLimit => "Maximum recursion depth exceeded"
  | notQueryable => "Store is not queryable"
  | store message => "Store error: " ++ message

end EvalError

end QueryAlgebra
