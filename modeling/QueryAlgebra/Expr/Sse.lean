/-
**S-expressions.**

The textual form of expressions and patterns in messages: a compound is its operands in parentheses,
and a pattern is a list of its triple patterns, within the graph that it is asked of.
-/
import QueryAlgebra.Expr.Basic
import QueryAlgebra.Pattern.Basic

namespace QueryAlgebra

/-- Texts with spaces between them, in parentheses. -/
def parenthesized (texts : List (List Char)) : List Char :=
  '(' :: [' '].intercalate texts ++ [')']

namespace Expr

mutual

/-- The S-expression of an expression. -/
def sse : Expr → List Char
  | .constant term => term.display
  | .var reference => reference.display
  | .compound tag args _ => parenthesized (tag.sse :: sseList args)

/-- The S-expressions of a list. -/
def sseList : List Expr → List (List Char)
  | [] => []
  | expr :: rest => expr.sse :: sseList rest

end

/-- The S-expression of an expression as a string. -/
def sseText (expr : Expr) : String := String.ofList expr.sse

end Expr

/-- The S-expression of a triple pattern. -/
def TriplePattern.sse (pattern : TriplePattern) : List Char :=
  parenthesized ("triple".toList :: pattern.terms.map Term.display)

namespace Pattern

/-- The S-expression of the triple patterns of a pattern. -/
def groupSse (pattern : Pattern) : List Char :=
  parenthesized ("bgp".toList :: pattern.triples.map TriplePattern.sse)

/-- The S-expression of a pattern. -/
def sse (pattern : Pattern) : List Char :=
  match pattern.graph with
  | none => pattern.groupSse
  | some graph => parenthesized ["graph".toList, graph.display, pattern.groupSse]

/-- The S-expression of a pattern as a string. -/
def sseText (pattern : Pattern) : String := String.ofList pattern.sse

end Pattern

end QueryAlgebra
