/-
**Dispatching queries.**

A plain pattern goes to the store's matcher as it is. A node is executed by the store between two
hooks, the second of which runs only if the execution succeeds, and its result is handed on under
the shape that the node declares. A store that takes no queries is not asked anything.
-/
import QueryAlgebra.Query.Store

namespace QueryAlgebra

/-- A query. -/
inductive Query (σ : Type)
  | pattern (pattern : Pattern)
  | node (node : Node σ)

/-- What runs before and after a node is executed. -/
structure Hooks (σ : Type) where
  before : Option (Node σ → StateM σ Unit) := none
  after : Option (Node σ → StateM σ Unit) := none

namespace Hooks

variable {σ : Type}

/-- Runs a hook, if there is one. -/
def run (hook : Option (Node σ → StateM σ Unit)) (node : Node σ) : QueryM σ Unit :=
  match hook with
  | some action => ExceptT.lift (action node)
  | none => pure ()

/-- A truth value in the description of hooks. -/
def flagText (flag : Bool) : String := if flag then "true" else "false"

/-- Which hooks there are. -/
def text (hooks : Hooks σ) : String :=
  "QueryHooks \x7b before_query: " ++ flagText hooks.before.isSome ++ ", after_query: " ++
    flagText hooks.after.isSome ++ " \x7d"

end Hooks

/-- The options that a store is handed with a node. -/
def ExecuteArity.optionsFor (options : Options) : ExecuteArity → Option Options
  | nodeOnly => none
  | nodeWithOptions => some options

/-- Executes a node on a store, between the hooks. -/
def Hooks.execute {σ : Type} (hooks : Hooks σ) (store : Store σ) (options : Options)
    (node : Node σ) : QueryM σ QueryOutput := do
  Hooks.run hooks.before node
  let result ← store.execute node (store.arity.optionsFor options)
  Hooks.run hooks.after node
  QueryOutput.ofResult node.shape result

/-- Answers a query. -/
def Hooks.dispatch {σ : Type} (hooks : Hooks σ) (store : Store σ) (options : Options)
    (query : Query σ) : QueryM σ QueryOutput :=
  if store.isQueryable then
    match query with
    | .pattern pattern => .solutions <$> store.matchPattern pattern options
    | .node node => hooks.execute store options node
  else throw .notQueryable

end QueryAlgebra
