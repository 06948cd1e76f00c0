/-
**Solutions in documents.**

The bindings of a solution are an object from names to terms, with null for a variable that is
listed without a value. A name that occurs again keeps its place and takes the later value.
-/
import QueryAlgebra.Document.Term
import QueryAlgebra.Solution

namespace QueryAlgebra

open Document

namespace Solution

/-- Reads a binding. -/
def readBinding (levels : Nat) (solution : Solution) (name : String) (value : Json) :
    Decoded Solution := do
  let reference := Variable.ofName name
  match ← decodeNullable (Term.ofJson levels) value with
  | some term => return solution.bind reference term
  | none => return solution.declare reference

/-- Reads the bindings of a solution. -/
def bindingsOfJson : (levels : Nat) → Json → Decoded Solution
  | 0, _ => .error .malformed
  | levels + 1, value => do
    let members ← objectMembers value
    members.fold (readBinding levels) empty

/-- Reads a member of a solution. -/
def readField (levels : Nat) (bindings : Option Solution) (key : String) (value : Json) :
    Decoded (Option Solution) :=
  match key with
  | "bindings" => fill bindings (bindingsOfJson levels value)
  | _ => pass bindings value

/-- Reads a solution. -/
def ofJson : (levels : Nat) → Json → Decoded Solution
  | 0, _ => .error .malformed
  | levels + 1, value => do
    let members ← recordMembers ["bindings"] value
    require (← members.fold (readField levels) none)

/-- The document of the value of a variable. -/
def valueToJson : Option Term → Json
  | some term => term.toJson
  | none => .null

/-- The document of the bindings of a solution. -/
def bindingsToJson (solution : Solution) : Json :=
  .ofMembers (solution.map.entries.map fun entry => (entry.1.name, valueToJson entry.2))

/-- The document of a solution. -/
def toJson (solution : Solution) : Json := .ofMembers [("bindings", solution.bindingsToJson)]

end Solution

namespace Solutions

/-- Reads a sequence of solutions. -/
def ofJson : (levels : Nat) → Json → Decoded Solutions
  | 0, _ => .error .malformed
  | levels + 1, value => decodeList (Solution.ofJson levels) value

/-- The document of a sequence of solutions. -/
def toJson (solutions : Solutions) : Json := .ofItems (solutions.map Solution.toJson)

end Solutions

end QueryAlgebra
