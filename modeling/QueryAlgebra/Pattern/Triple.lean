/-
**Triples and triple patterns.**

A triple states a predicate of a subject and an object; in a triple pattern each position may hold a
variable. Matching a pattern against a triple assigns terms to the variables of the pattern, the
same term wherever a variable is repeated.
-/
import QueryAlgebra.Term.Basic

namespace QueryAlgebra

/-- A statement. -/
structure Triple where
  subject : Term
  predicate : Iri
  object : Term
  deriving DecidableEq, Repr

/-- Three terms, a period after them. -/
def displayStatement (subject predicate object : List Char) : List Char :=
  subject ++ ' ' :: predicate ++ ' ' :: object ++ [' ', '.']

/-- The text of a triple. -/
def Triple.display (triple : Triple) : List Char :=
  displayStatement triple.subject.display triple.predicate.display triple.object.display

/-- A triple whose positions may hold variables. -/
structure TriplePattern where
  subject : Term
  predicate : Term
  object : Term
  deriving DecidableEq, Repr

/-- The positions of a triple pattern that do not take every term. -/
inductive PatternPosition
  | subject
  | predicate
  deriving DecidableEq, Repr

/-- The name of a position in messages. -/
def PatternPosition.name : PatternPosition → String
  | subject => "subject"
  | predicate => "predicate"

/-- The errors of building terms and patterns. -/
inductive ModelError
  | invalidIri (text : String) (fault : IriFault)
  /-- A literal has both a datatype and a language. -/
  | invalidLiteral (lexical : String)
  /-- A position of a triple pattern holds a term that it does not take. -/
  | invalidPatternTerm (position : PatternPosition) (term : Term)
  deriving DecidableEq, Repr

/-- The wording of an error. -/
def ModelError.message : ModelError → String
  | invalidIri text fault => "Invalid IRI '" ++ text ++ "': " ++ fault.message
  | invalidLiteral lexical =>
    "Invalid literal \"" ++ lexical ++ "\": both datatype and language tag"
  | invalidPatternTerm position term =>
    "Invalid " ++ position.name ++ " in triple pattern: " ++ term.text

/-- Reads an IRI, as an error of the model where it is not absolute. -/
def Iri.read (text : String) : Except ModelError Iri :=
  match Iri.parse text with
  | .ok iri => .ok iri
  | .error fault => .error (.invalidIri text fault)

/-- Terms for the variables of a pattern, in order of first appearance. -/
abbrev Assignments := List (Variable × Term)

namespace TriplePattern

/-- A triple pattern; no literal is a subject, and only an IRI or a variable is a predicate. -/
def make (subject predicate object : Term) : Except ModelError TriplePattern :=
  match subject, predicate with
  | .literal _, _ => .error (.invalidPatternTerm .subject subject)
  | _, .literal _ => .error (.invalidPatternTerm .predicate predicate)
  | _, .blank _ => .error (.invalidPatternTerm .predicate predicate)
  | _, _ => .ok ⟨subject, predicate, object⟩

/-- The three terms in order. -/
def terms (pattern : TriplePattern) : List Term :=
  [pattern.subject, pattern.predicate, pattern.object]

/-- The variables in order, with repetitions. -/
def vars (pattern : TriplePattern) : List Variable := pattern.terms.filterMap Term.var?

/-- Matches one position, given the assignments of the positions before it. -/
def matchTerm (assignments : Assignments) (pattern value : Term) : Option Assignments :=
  match pattern with
  | .var reference =>
    match assignments.lookup reference with
    | some bound => if bound = value then some assignments else none
    | none => some (assignments ++ [(reference, value)])
  | fixed => if fixed = value then some assignments else none

/-- The assignments that turn a pattern into a triple, if there are any. -/
def matchTriple (pattern : TriplePattern) (triple : Triple) : Option Assignments :=
  (matchTerm [] pattern.subject triple.subject).bind fun first =>
    (matchTerm first pattern.predicate (.iri triple.predicate)).bind fun second =>
      matchTerm second pattern.object triple.object

/-- The text of a triple pattern. -/
def display (pattern : TriplePattern) : List Char :=
  displayStatement pattern.subject.display pattern.predicate.display pattern.object.display

end TriplePattern

end QueryAlgebra
