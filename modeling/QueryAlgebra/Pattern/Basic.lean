/-
**Basic graph patterns.**

A basic graph pattern is a conjunction of triple patterns, asked of the default graph or of a named
one.
-/
import QueryAlgebra.Pattern.Triple

namespace QueryAlgebra

/-- A basic graph pattern. -/
structure Pattern where
  triples : List TriplePattern
  graph : Option Term := none
  deriving DecidableEq, Repr

/-- The elements of a list without repetitions, in order of first appearance. -/
def distinct {α : Type} [DecidableEq α] (elements : List α) : List α :=
  elements.foldl (fun seen element => if element ∈ seen then seen else seen ++ [element]) []

namespace Pattern

/-- The same triple patterns asked of a named graph. -/
def inGraph (pattern : Pattern) (graph : Term) : Pattern := { pattern with graph := some graph }

/-- The variables of a pattern, that of the graph first, each once. -/
def vars (pattern : Pattern) : List Variable :=
  distinct ((pattern.graph.bind Term.var?).toList ++ pattern.triples.flatMap TriplePattern.vars)

end Pattern

end QueryAlgebra
