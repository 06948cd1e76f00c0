/-
**Solutions.**

A solution lists variables in the order in which they were first added, each with a value or
explicitly without one; no variable is listed twice. Adding a variable again keeps its place and
takes the new value. Two solutions are the same when they agree on every variable, whatever the
order (`Solution.agrees`).
-/
import QueryAlgebra.OrderedMap
import QueryAlgebra.Term.Basic

namespace QueryAlgebra

/-- What an expression asks of the variables it meets. -/
structure Bindings where
  /-- The value of a variable. -/
  lookup : Variable → Option Term
  /-- Whether a variable is listed without a value. -/
  isExplicitlyUnbound : Variable → Bool

/-- A solution of a query. -/
structure Solution where
  map : OrderedMap Variable (Option Term)
  deriving DecidableEq, Repr

namespace Solution

/-- The solution without variables. -/
def empty : Solution := ⟨.empty⟩

instance : Inhabited Solution := ⟨empty⟩

/-- The solution with a variable bound to a value. -/
def bind (solution : Solution) (reference : Variable) (value : Term) : Solution :=
  ⟨solution.map.put reference (some value)⟩

/-- The solution with a variable listed without a value. -/
def declare (solution : Solution) (reference : Variable) : Solution :=
  ⟨solution.map.put reference none⟩

/-- The solution of a list of entries, put in order. -/
def ofEntries (entries : List (Variable × Option Term)) : Solution := ⟨.ofList entries⟩

/-- The value of a variable. -/
def lookup (solution : Solution) (reference : Variable) : Option Term :=
  (solution.map.find? reference).join

/-- The value of the variable of a name, which may be written with its sigil. -/
def get (solution : Solution) (name : String) : Option Term :=
  solution.lookup (Variable.ofName name)

/-- Whether a variable is listed. -/
def contains (solution : Solution) (reference : Variable) : Bool :=
  solution.map.contains reference

/-- Whether a variable has a value. -/
def isBound (solution : Solution) (reference : Variable) : Bool :=
  (solution.lookup reference).isSome

/-- Whether a variable is listed without a value. -/
def isExplicitlyUnbound (solution : Solution) (reference : Variable) : Bool :=
  solution.map.find? reference == some none

/-- The variables in order of first addition. -/
def vars (solution : Solution) : List Variable := solution.map.keys

/-- The bound variables with their values, in order. -/
def bound (solution : Solution) : List (Variable × Term) :=
  solution.map.entries.filterMap fun entry => entry.2.map fun value => (entry.1, value)

/-- The number of variables. -/
def size (solution : Solution) : Nat := solution.map.size

/-- Whether there are no variables. -/
def isEmpty (solution : Solution) : Bool := solution.map.isEmpty

/-- Whether two solutions agree on every variable. -/
def agrees (first second : Solution) : Bool :=
  first.size == second.size &&
    first.map.entries.all fun entry => second.map.find? entry.1 == some entry.2

/-- What an expression sees of a solution. -/
def bindings (solution : Solution) : Bindings := ⟨solution.lookup, solution.isExplicitlyUnbound⟩

/-- The text of an entry. -/
def displayEntry (entry : Variable × Option Term) : List Char :=
  match entry.2 with
  | some value => entry.1.display ++ '=' :: value.display
  | none => entry.1.display

/-- The text of a solution. -/
def display (solution : Solution) : List Char :=
  '\x7b' :: [',', ' '].intercalate (solution.map.entries.map displayEntry) ++ ['\x7d']

end Solution

/-- A sequence of solutions. -/
abbrev Solutions := List Solution

/-- Whether two sequences have the same solutions in the same order. -/
def Solutions.agrees (first second : Solutions) : Bool :=
  first.length == second.length && (first.zip second).all fun pair => pair.1.agrees pair.2

end QueryAlgebra
