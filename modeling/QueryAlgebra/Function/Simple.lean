/-
**Simple functions.**

Functions that are given by a value rather than by code.
-/
import QueryAlgebra.Function.Registry

namespace QueryAlgebra

/-- A function that is given by a value. -/
inductive SimpleFunction
  | constant (term : Term)
  /-- The argument of an index, counted from zero. -/
  | argument (index : Nat)
  /-- The lexical forms of the arguments one after the other; only literals have one. -/
  | concatenation
  | count
  | failure (message : String)
  deriving DecidableEq, Repr

namespace SimpleFunction

/-- The function of its value. -/
def apply : SimpleFunction → ExtensionFunction
  | constant term, _ => .ok term
  | argument index, terms =>
    match terms[index]? with
    | some term => .ok term
    | none => .error (.store ("no argument " ++ String.ofList (Text.digitsOf index)))
  | concatenation, terms =>
    let forms := terms.filterMap fun term => term.literal?.map Literal.lexical
    .ok (.literal (.simple (String.join forms)))
  | count, terms => .ok (.ofInt terms.length)
  | failure message, _ => .error (.store message)

end SimpleFunction

end QueryAlgebra
