/-
**The standard functions.**

The casts to the six supported datatypes, the functions on texts and those on truth values.
-/
import QueryAlgebra.Function.Cast
import QueryAlgebra.Function.Logic
import QueryAlgebra.Function.Registry
import QueryAlgebra.Function.Strings

namespace QueryAlgebra

/-- A cast as a function of one argument. -/
def Cast.function (cast : Term → Except EvalError Term) : ExtensionFunction := fun terms => do
  cast (← singleArgument terms)

/-- The standard functions with their names and numbers of arguments. -/
def standardFunctions : List (Iri × Nat × ExtensionFunction) := [
  (Xsd.string, 1, Cast.function Cast.toXsdString),
  (Xsd.boolean, 1, Cast.function Cast.toXsdBoolean),
  (Xsd.integer, 1, Cast.function Cast.toXsdInteger),
  (Xsd.decimal, 1, Cast.function Cast.toXsdDecimal),
  (Xsd.double, 1, Cast.function (Cast.toXsdFloating Xsd.double .double)),
  (Xsd.float, 1, Cast.function (Cast.toXsdFloating Xsd.float .single)),
  (Fn.startsWith, 2, Strings.startsWith),
  (Fn.endsWith, 2, Strings.endsWith),
  (Fn.contains, 2, Strings.contains),
  (Fn.stringLength, 1, Strings.stringLength),
  (Fn.upperCase, 1, Strings.mapText Text.upperCase),
  (Fn.lowerCase, 1, Strings.mapText Text.lowerCase),
  (Fn.not, 1, Logic.not),
  (Fn.boolean, 1, Logic.boolean)]

/-- The registry of the standard functions. -/
def Registry.standard : Registry :=
  standardFunctions.foldl (fun registry (name, arity, function) =>
    registry.register (.iri name) arity function) .empty

end QueryAlgebra
