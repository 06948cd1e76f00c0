/-
**A store in memory.**

The store holds triples in order. A pattern is matched triple pattern by triple pattern: every
solution so far is extended in every way in which a triple matches and agrees with it. The name of
the graph plays no part. What the store is asked is written down as events.
-/
import QueryAlgebra.Document.Options
import QueryAlgebra.Json.Printer
import QueryAlgebra.Query.Dispatch

namespace QueryAlgebra

/-- The solution extended by assignments, if they agree with its values. -/
def Solution.extend (solution : Solution) (assignments : Assignments) : Option Solution :=
  if assignments.all fun (reference, value) =>
      (solution.lookup reference).all (· == value) then
    some (assignments.foldl (fun extended (reference, value) => extended.bind reference value)
      solution)
  else none

/-- The extensions of a solution by the triples that match a triple pattern. -/
def TriplePattern.extensions (pattern : TriplePattern) (triples : List Triple)
    (solution : Solution) : Solutions :=
  triples.filterMap fun triple => (pattern.matchTriple triple).bind solution.extend

/-- The solutions of a pattern. -/
def Pattern.solutions (pattern : Pattern) (triples : List Triple) : Solutions :=
  pattern.triples.foldl (fun found triple => found.flatMap (triple.extensions triples))
    [Solution.empty]

/-- What a store is asked. -/
inductive QueryEvent
  | matching (maxDepth : Nat) (pattern : Pattern)
  /-- A node is executed, with options if they were handed over. -/
  | executing (options : Option Options)
  | before (tag : String)
  | after (tag : String)

/-- The text of an event. -/
def QueryEvent.text : QueryEvent → String
  | matching maxDepth pattern =>
    "legacy " ++ String.ofList (Text.digitsOf maxDepth) ++ " " ++ pattern.sseText
  | executing (some options) => "execute " ++ options.toJson.text
  | executing none => "execute none"
  | before tag => "before " ++ tag
  | after tag => "after " ++ tag

/-- The events so far, the last one first. -/
abbrev Journal := List QueryEvent

/-- Writes an event down. -/
def Journal.record (event : QueryEvent) : StateM Journal Unit := modify (event :: ·)

/-- The texts of the events in order. -/
def Journal.texts (journal : Journal) : List String := journal.reverse.map QueryEvent.text

/-- The hook that writes the names of nodes down. -/
def Journal.hook (event : String → QueryEvent) (node : Node Journal) : StateM Journal Unit :=
  Journal.record (event node.tag)

/-- The contents of a store in memory. -/
structure Memory where
  triples : List Triple
  /-- With a message, the store fails whenever it is to match a pattern. -/
  failure : Option String

namespace Memory

/-- Matches a pattern. -/
def matchPattern (memory : Memory) (pattern : Pattern) (options : Options) :
    QueryM Journal Solutions := do
  ExceptT.lift (Journal.record (.matching options.maxDepth pattern))
  match memory.failure with
  | some message => throw (.store message)
  | none => return pattern.solutions memory.triples

/-- The store with the given answers to what it wants. -/
def store (memory : Memory) (isQueryable : Bool) (arity : ExecuteArity) : Store Journal where
  isQueryable := isQueryable
  arity := arity
  matchPattern := memory.matchPattern

/-- The store that also writes down which nodes it executes. -/
def recordingStore (memory : Memory) (isQueryable : Bool) (arity : ExecuteArity) :
    Store Journal :=
  let plain := memory.store isQueryable arity
  { plain with
    execute := fun node options => do
      ExceptT.lift (Journal.record (.executing options))
      plain.execute node options }

end Memory

end QueryAlgebra
