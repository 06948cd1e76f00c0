/-
**The registry of functions.**

Functions are registered under a term, the tag, together with a number of arguments. Registering
again under the same key replaces the function.
-/
import QueryAlgebra.Function.Arguments
import QueryAlgebra.OrderedMap

namespace QueryAlgebra

/-- What a function is registered under. -/
structure FunctionKey where
  tag : Term
  arity : Nat
  deriving DecidableEq, Repr

/-- The text of a key. -/
def FunctionKey.display (key : FunctionKey) : List Char :=
  key.tag.display ++ '/' :: Text.digitsOf key.arity

/-- The registered functions. -/
structure Registry where
  functions : OrderedMap FunctionKey ExtensionFunction

namespace Registry

/-- The registry without functions. -/
def empty : Registry := ⟨.empty⟩

/-- The registry with a function registered. -/
def register (registry : Registry) (tag : Term) (arity : Nat) (function : ExtensionFunction) :
    Registry :=
  ⟨registry.functions.put ⟨tag, arity⟩ function⟩

/-- The function registered for a tag and a number of arguments. -/
def get (registry : Registry) (tag : Term) (arity : Nat) : Option ExtensionFunction :=
  registry.functions.find? ⟨tag, arity⟩

/-- Whether a function is registered for a tag and a number of arguments. -/
def contains (registry : Registry) (tag : Term) (arity : Nat) : Bool :=
  registry.functions.contains ⟨tag, arity⟩

/-- Takes a registration away; the function that was registered, if any, and the registry left. -/
def unregister (registry : Registry) (tag : Term) (arity : Nat) :
    Option ExtensionFunction × Registry :=
  (registry.get tag arity, ⟨registry.functions.erase ⟨tag, arity⟩⟩)

/-- The keys. -/
def keys (registry : Registry) : List FunctionKey := registry.functions.keys

/-- The number of registered functions. -/
def size (registry : Registry) : Nat := registry.functions.size

/-- Whether no function is registered. -/
def isEmpty (registry : Registry) : Bool := registry.functions.isEmpty

/-- The texts of the keys in the order of their code points. -/
def sortedKeys (registry : Registry) : List String :=
  (registry.keys.map fun key => String.ofList key.display).mergeSort (· ≤ ·)

/-- The keys of a registry, each quoted. -/
def text (registry : Registry) : String :=
  "ExtensionRegistry \x7b functions: [" ++
    ", ".intercalate (registry.sortedKeys.map Text.quoted) ++ "] \x7d"

end Registry

end QueryAlgebra
