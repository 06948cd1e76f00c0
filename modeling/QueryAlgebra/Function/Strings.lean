/-
**Functions on texts.**

The predicates compare two texts and require compatible arguments: an untagged second argument goes
with every first, a tagged one only with a first of the same language. The length counts characters,
and the case mappings keep the datatype or the language.
-/
import QueryAlgebra.Function.Arguments

namespace QueryAlgebra.Strings

open Text

/-- Whether two terms are compatible arguments. -/
def compatible (first second : Term) : Bool :=
  match first, second with
  | .literal left, .literal right =>
    left.isPlain && right.isPlain &&
      match left.language?, right.language? with
      | _, none => true
      | none, some _ => false
      | some tag, some other => tag == other
  | _, _ => false

/-- The literal of a term that is a text. -/
def textLiteral : Term → Except EvalError Literal
  | .literal literal =>
    if literal.isPlain then .ok literal else .error (.typeMismatch (.notText (.literal literal)))
  | term => .error (.typeMismatch (.notText term))

/-- Whether a text occurs in another. -/
def isInfix (part : List Char) : List Char → Bool
  | [] => part.isEmpty
  | c :: rest => part.isPrefixOf (c :: rest) || isInfix part rest

/-- A predicate on two texts as a function on terms. -/
def predicate (operator : Iri) (holds : List Char → List Char → Bool) : ExtensionFunction :=
  fun terms => do
    let (first, second) ← twoArguments terms
    let left ← textLiteral first
    let right ← textLiteral second
    if compatible first second then
      return .ofBool (holds left.lexical.toList right.lexical.toList)
    else throw (.incompatibleArguments operator first second)

/-- Whether the first text begins with the second. -/
def startsWith : ExtensionFunction :=
  predicate Fn.startsWith fun text part => part.isPrefixOf text

/-- Whether the first text ends with the second. -/
def endsWith : ExtensionFunction :=
  predicate Fn.endsWith fun text part => part.isSuffixOf text

/-- Whether the second text occurs in the first. -/
def contains : ExtensionFunction :=
  predicate Fn.contains fun text part => isInfix part text

/-- The number of characters of a text. -/
def stringLength : ExtensionFunction := fun terms => do
  let literal ← textLiteral (← singleArgument terms)
  return .ofInt literal.lexical.toList.length

/-- A text with its characters mapped. -/
def mapText (map : List Char → List Char) : ExtensionFunction := fun terms => do
  let literal ← textLiteral (← singleArgument terms)
  return .literal { literal with lexical := String.ofList (map literal.lexical.toList) }

end QueryAlgebra.Strings
