/-
**The options of evaluation.**

How deep an expression may be nested, what a filter does with a solution that it cannot judge, and
named values that the evaluation hands on to stores and operators without reading them.
-/
import QueryAlgebra.Json.Basic
import QueryAlgebra.OrderedMap

namespace QueryAlgebra

/-- What a filter does with a solution for which its condition fails. -/
inductive FilterErrorPolicy
  /-- The solution is dropped. -/
  | exclude
  /-- The filter fails. -/
  | propagate
  deriving DecidableEq, Repr, Inhabited

/-- The name of a policy in documents. -/
def FilterErrorPolicy.name : FilterErrorPolicy → String
  | exclude => "exclude"
  | propagate => "propagate"

/-- The options of evaluation. -/
structure Options where
  maxDepth : Nat := 256
  filterErrors : FilterErrorPolicy := .exclude
  extensions : OrderedMap String Json := .empty
  deriving Inhabited

namespace Options

/-- The options where nothing is chosen. -/
def default : Options := {}

/-- The options with a named value. -/
def withExtension (options : Options) (name : String) (value : Json) : Options :=
  { options with extensions := options.extensions.put name value }

end Options

end QueryAlgebra
