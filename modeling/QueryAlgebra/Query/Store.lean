/-
**Stores and the nodes of the algebra.**

A store matches patterns and executes nodes. A node is an operator, which brings its own way to
execute on whatever matches patterns, or a bare compound, which has none. All of it may read and
change a state.
-/
import QueryAlgebra.Expr.Sse
import QueryAlgebra.Options
import QueryAlgebra.Query.Result

namespace QueryAlgebra

/-- An answer from a store, with its state. -/
abbrev QueryM (σ : Type) := ExceptT EvalError (StateM σ)

/-- What a store wants to be handed when it executes a node. -/
inductive ExecuteArity
  | nodeOnly
  | nodeWithOptions
  deriving DecidableEq, Repr, Inhabited

/-- Something that matches patterns. -/
structure PatternSource (σ : Type) where
  isQueryable : Bool := true
  arity : ExecuteArity := .nodeWithOptions
  matchPattern : Pattern → Options → QueryM σ Solutions

/-- An operator of the algebra. -/
structure Operator (σ : Type) where
  tag : String
  /-- The shape that its results are declared to have. -/
  shape : QueryShape := .solutions
  execute : PatternSource σ → Options → QueryM σ QueryResult

/-- A node of the algebra. -/
inductive Node (σ : Type)
  | operator (custom : Operator σ)
  | compound (tag : Expr) (args : List Expr) (aggregate : Bool)

namespace Node

variable {σ : Type}

/-- The name of a node. -/
def tag : Node σ → String
  | operator custom => custom.tag
  | compound tag _ _ => tag.sseText

/-- The shape that the results of a node are declared to have. -/
def shape : Node σ → QueryShape
  | operator custom => custom.shape
  | compound .. => .solutions

/-- Executes a node. -/
def execute (source : PatternSource σ) (options : Options) : Node σ → QueryM σ QueryResult
  | operator custom => custom.execute source options
  | compound tag _ _ => throw (.notImplemented tag.sseText)

end Node

/-- A store; one that does not say otherwise executes a node as the node does, with the default
options where it is handed none. -/
structure Store (σ : Type) extends PatternSource σ where
  execute : Node σ → Option Options → QueryM σ QueryResult :=
    fun node options => node.execute toPatternSource (options.getD .default)

end QueryAlgebra
