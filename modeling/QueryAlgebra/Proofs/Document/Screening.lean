/-
**Documents are screened as a whole.**

The forms of document contain each other: a pattern holds triple patterns, these hold terms, a term
may hold an IRI or a literal. `Reads` says which value inside a document is read as which form, one
step down; `Part` is any number of steps. A reader that accepts a value has accepted every part of it
(`accepts_of_part`). No text of an IRI that is not absolute and no literal with both a datatype and a
language is accepted, so a document with one of them at any part is refused, and what is accepted is
valid at every position.
-/
import QueryAlgebra.Proofs.Document.Expr
import QueryAlgebra.Proofs.Document.Pattern
import QueryAlgebra.Proofs.Document.Solution

namespace QueryAlgebra.Document

/-- The forms in which values are read. -/
inductive Form
  | iri
  | literal
  | term
  | expression
  | triple
  | triplePattern
  | pattern
  | solution
  | solutions
  deriving DecidableEq, Repr

namespace Form

/-- What a value of a form is read as. -/
abbrev Read : Form → Type
  | iri => Iri
  | literal => Literal
  | term => Term
  | expression => Expr
  | triple => Triple
  | triplePattern => TriplePattern
  | pattern => Pattern
  | solution => Solution
  | solutions => Solutions

/-- Reads a value of a form. -/
abbrev decode : (form : Form) → (levels : Nat) → Json → Decoded form.Read
  | iri => fun _ => Iri.ofJson
  | literal => Literal.ofJson
  | term => Term.ofJson
  | expression => Expr.ofJson
  | triple => Triple.ofJson
  | triplePattern => TriplePattern.ofJson
  | pattern => Pattern.ofJson
  | solution => Solution.ofJson
  | solutions => Solutions.ofJson

/-- Whether what was read has the invariants of the model at every position. -/
abbrev IsValid : (form : Form) → form.Read → Prop
  | iri => Iri.IsAbsolute
  | literal => Literal.IsValid
  | term => Term.IsValid
  | expression => Expr.IsValid
  | triple => Triple.IsValid
  | triplePattern => TriplePattern.IsValid
  | pattern => Pattern.IsValid
  | solution => Solution.IsValid
  | solutions => Solutions.IsValid

/-- What was read is valid. -/
theorem isValid_of_decode {form : Form} {levels : Nat} {value : Json} {decoded : form.Read}
    (succeeds : form.decode levels value = .ok decoded) : form.IsValid decoded := by
  cases form with
  | iri => exact (Iri.ofJson_eq_ok.mp succeeds).2
  | literal => exact Literal.isValid_of_ofJson succeeds
  | term => exact Term.isValid_of_ofJson succeeds
  | expression => exact Expr.isValid_of_ofJson succeeds
  | triple => exact Triple.isValid_of_ofJson succeeds
  | triplePattern => exact TriplePattern.isValid_of_ofJson succeeds
  | pattern => exact Pattern.isValid_of_ofJson succeeds
  | solution => exact Solution.isValid_of_ofJson succeeds
  | solutions => exact Solutions.isValid_of_ofJson succeeds

/-- Whether a value is accepted as one of a form. -/
def Accepts (form : Form) (value : Json) : Prop :=
  ∃ levels decoded, form.decode levels value = .ok decoded

end Form

/-! ### Parts of documents -/

/-- Whether the first value holds the second at a position where it is read, and as which form. -/
inductive Reads : Form → Json → Form → Json → Prop
  /-- The datatype of a literal. -/
  | datatype {value part : Json} (holds : Holds Literal.fieldNames "datatype" part value)
    (present : part ≠ .null) : Reads .literal value .iri part
  /-- The value of a term of kind IRI, before or after the kind. -/
  | iri {value kind part : Json} (holdsKind : Holds Term.fieldNames "type" kind value)
    (names : Names "Iri" kind) (holds : Holds Term.fieldNames "value" part value) :
    Reads .term value .iri part
  /-- The value of a term of kind literal, before or after the kind. -/
  | literal {value kind part : Json} (holdsKind : Holds Term.fieldNames "type" kind value)
    (names : Names "Literal" kind) (holds : Holds Term.fieldNames "value" part value) :
    Reads .term value .literal part
  /-- A constant. -/
  | constant {members : List (Option String × Json)} {ending : Ending} {part : Json}
    (listed : (some "Constant", part) ∈ members) :
    Reads .expression (.object members ending) .term part
  /-- The tag of a compound. -/
  | tag {members : List (Option String × Json)} {ending : Ending} {compound part : Json}
    (listed : (some "Compound", compound) ∈ members)
    (holds : Holds Expr.fieldNames "tag" part compound) :
    Reads .expression (.object members ending) .expression part
  /-- An argument of a compound. -/
  | argument {members : List (Option String × Json)} {ending argsEnding : Ending} {compound : Json}
    {items : List Json} {part : Json} (listed : (some "Compound", compound) ∈ members)
    (holds : Holds Expr.fieldNames "args" (.array items argsEnding) compound)
    (member : part ∈ items) : Reads .expression (.object members ending) .expression part
  /-- The subject of a triple. -/
  | subject {value part : Json} (holds : Holds positionNames "subject" part value) :
    Reads .triple value .term part
  /-- The predicate of a triple. -/
  | predicate {value part : Json} (holds : Holds positionNames "predicate" part value) :
    Reads .triple value .iri part
  /-- The object of a triple. -/
  | object {value part : Json} (holds : Holds positionNames "object" part value) :
    Reads .triple value .term part
  /-- A position of a triple pattern. -/
  | position {name : String} {value part : Json} (isPosition : name ∈ positionNames)
    (holds : Holds positionNames name part value) : Reads .triplePattern value .term part
  /-- A triple pattern of a pattern. -/
  | triplePattern {value : Json} {items : List Json} {ending : Ending} {part : Json}
    (holds : Holds Pattern.fieldNames "patterns" (.array items ending) value)
    (member : part ∈ items) : Reads .pattern value .triplePattern part
  /-- The graph of a pattern. -/
  | graph {value part : Json} (holds : Holds Pattern.fieldNames "graph_name" part value)
    (present : part ≠ .null) : Reads .pattern value .term part
  /-- The value of a variable in a solution. -/
  | binding {value : Json} {members : List (Option String × Json)} {ending : Ending}
    {name : String} {part : Json}
    (holds : Holds ["bindings"] "bindings" (.object members ending) value)
    (listed : (some name, part) ∈ members) (present : part ≠ .null) :
    Reads .solution value .term part
  /-- A solution of a sequence. -/
  | solution {items : List Json} {ending : Ending} {part : Json} (member : part ∈ items) :
    Reads .solutions (.array items ending) .solution part

/-- Whether the first value holds the second at any depth, and as which form. -/
inductive Part : Form → Json → Form → Json → Prop
  | whole (form : Form) (value : Json) : Part form value form value
  | inside {form middle sub : Form} {value held part : Json} (reads : Reads form value middle held)
    (rest : Part middle held sub part) : Part form value sub part

/-- Whether a value of a form is never accepted for what it says: the text of an IRI that is not
absolute, or a literal with both a datatype and a language. -/
inductive IllFormed : Form → Json → Prop
  | iri {text : String} (refused : ∀ iri, Iri.parse text ≠ .ok iri) : IllFormed .iri (.ofText text)
  | literal {value datatype language : Json}
    (holdsDatatype : Holds Literal.fieldNames "datatype" datatype value)
    (hasDatatype : datatype ≠ .null)
    (holdsLanguage : Holds Literal.fieldNames "language" language value)
    (hasLanguage : language ≠ .null) : IllFormed .literal value

/-- Whether a document holds an ill-formed value at a position where it is read. -/
def HasIllFormed (form : Form) (value : Json) : Prop :=
  ∃ sub part, Part form value sub part ∧ IllFormed sub part

/-! ### Accepted documents -/

section Accepted

variable {α : Type} {decode : Json → Decoded α}

/-- What is not null and stands at a field that may be null is read. -/
theorem ReadAtOptional.ok_of_holds {fields : List String} {name : String} {value part : Json}
    {decoded? : Option α} (at? : ReadAtOptional decode fields name value decoded?)
    (holds : Holds fields name part value) (present : part ≠ .null) :
    ∃ decoded, decode part = .ok decoded ∧ decoded? = some decoded := by
  obtain ⟨absent, _⟩ | ⟨_, decoded, isPart, same⟩ := decodeNullable_eq_ok.mp (at?.every holds)
  · exact absurd absent present
  · exact ⟨decoded, isPart, same⟩

/-- Each item of an array that is read as a list is read. -/
theorem ok_of_mem_list {items : List Json} {ending : Ending} {values : List α}
    (succeeds : decodeList decode (.array items ending) = .ok values) {part : Json}
    (member : part ∈ items) : ∃ decoded, decode part = .ok decoded := by
  obtain ⟨_, same, areItems⟩ := decodeList_eq_ok.mp succeeds
  cases same
  exact ok_of_mem_items areItems member

end Accepted

/-- Each member of the object of an expression that was read is the one that says its form. -/
theorem member_of_listed {members : List (Option String × Json)} {ending : Ending} {levels : Nat}
    {expr : Expr} (succeeds : Expr.ofJson (levels + 1) (.object members ending) = .ok expr)
    {form : String} {part : Json} (listed : (some form, part) ∈ members) :
    Expr.Member levels form part expr := by
  obtain ⟨_, _, same, member⟩ := Expr.ofJson_eq_ok.mp succeeds
  cases same
  cases List.mem_singleton.mp listed
  exact member

/-- The parts of a compound that is read as an expression are those that stand in the document. -/
theorem compound_of_listed {members : List (Option String × Json)} {ending : Ending} {levels : Nat}
    {expr : Expr} (succeeds : Expr.ofJson (levels + 1) (.object members ending) = .ok expr)
    {value : Json} (listed : (some "Compound", value) ∈ members) :
    ∃ below tag args, ReadAt (Expr.ofJson below) Expr.fieldNames "tag" value tag ∧
      ReadAt (Expr.argsOfJson below) Expr.fieldNames "args" value args := by
  have isCompound := (member_of_listed succeeds listed).compoundOfJson_eq_ok rfl
  cases levels with
  | zero => cases isCompound
  | succ levels =>
    obtain ⟨tag, args, _, _, atTag, atArgs⟩ := Expr.compoundOfJson_reads isCompound
    exact ⟨levels, tag, args, atTag, atArgs⟩

/-- **What is read inside of an accepted value is accepted.** -/
theorem accepts_of_reads {form sub : Form} {value part : Json} (reads : Reads form value sub part)
    (accepts : form.Accepts value) : sub.Accepts part := by
  obtain ⟨levels, decoded, succeeds⟩ := accepts
  cases levels with
  | zero => cases reads <;> cases succeeds -- without levels no container is entered
  | succ levels =>
    cases reads with
    | datatype holds present =>
      obtain ⟨_, atDatatype, _⟩ := Literal.ofJson_reads succeeds
      obtain ⟨iri, isIri, _⟩ := atDatatype.ok_of_holds holds present
      exact ⟨levels, iri, isIri⟩
    | iri holdsKind names holds =>
      have isTerm := @Term.ofJson_reads _ _ _ _ .iri _ succeeds holdsKind names holds
      obtain ⟨iri, isIri, _⟩ := map_eq_ok.mp isTerm
      exact ⟨levels, iri, isIri⟩
    | literal holdsKind names holds =>
      have isTerm := @Term.ofJson_reads _ _ _ _ .literal _ succeeds holdsKind names holds
      obtain ⟨literal, isLiteral, _⟩ := map_eq_ok.mp isTerm
      exact ⟨levels, literal, isLiteral⟩
    | constant listed =>
      obtain ⟨term, isTerm⟩ := (member_of_listed succeeds listed).exists_term rfl
      exact ⟨levels, term, isTerm⟩
    | tag listed holds =>
      obtain ⟨below, tag, _, atTag, _⟩ := compound_of_listed succeeds listed
      exact ⟨below, tag, atTag.every holds⟩
    | argument listed holds member =>
      obtain ⟨below, _, args, _, atArgs⟩ := compound_of_listed succeeds listed
      have areArgs := atArgs.every holds
      cases below with
      | zero => cases areArgs
      | succ below =>
        obtain ⟨arg, isArg⟩ := ok_of_mem_list areArgs member
        exact ⟨below, arg, isArg⟩
    | subject holds => exact ⟨levels, _, (Triple.ofJson_reads succeeds).1.every holds⟩
    | predicate holds => exact ⟨levels, _, (Triple.ofJson_reads succeeds).2.1.every holds⟩
    | object holds => exact ⟨levels, _, (Triple.ofJson_reads succeeds).2.2.every holds⟩
    | position isPosition holds =>
      obtain ⟨atSubject, atPredicate, atObject⟩ := TriplePattern.ofJson_reads succeeds
      simp only [positionNames, List.mem_cons, List.not_mem_nil, or_false] at isPosition
      obtain rfl | rfl | rfl := isPosition
      · exact ⟨levels, _, atSubject.every holds⟩
      · exact ⟨levels, _, atPredicate.every holds⟩
      · exact ⟨levels, _, atObject.every holds⟩
    | triplePattern holds member =>
      have areTriples := (Pattern.ofJson_reads succeeds).1.every holds
      cases levels with
      | zero => cases areTriples
      | succ levels =>
        obtain ⟨triple, isTriple⟩ := ok_of_mem_list areTriples member
        exact ⟨levels, triple, isTriple⟩
    | graph holds present =>
      obtain ⟨graph, isGraph, _⟩ := (Pattern.ofJson_reads succeeds).2.ok_of_holds holds present
      exact ⟨levels, graph, isGraph⟩
    | binding holds listed present =>
      have areBindings := (Solution.ofJson_reads succeeds).every holds
      cases levels with
      | zero => cases areBindings
      | succ levels =>
        obtain ⟨term, isTerm⟩ := Solution.ok_of_mem_bindings areBindings listed present
        exact ⟨levels, term, isTerm⟩
    | solution member =>
      obtain ⟨solution, isSolution⟩ := ok_of_mem_list succeeds member
      exact ⟨levels, solution, isSolution⟩

/-- **Every part of an accepted value is accepted.** -/
theorem accepts_of_part {form sub : Form} {value part : Json} (inside : Part form value sub part)
    (accepts : form.Accepts value) : sub.Accepts part := by
  induction inside with
  | whole form value => exact accepts
  | inside reads _ inRest => exact inRest (accepts_of_reads reads accepts)

/-- An ill-formed value is not accepted. -/
theorem not_accepts_of_illFormed {form : Form} {value : Json} (ill : IllFormed form value) :
    ¬form.Accepts value := by
  rintro ⟨levels, decoded, succeeds⟩
  cases ill with
  | @iri text refused =>
    obtain ⟨same, absolute⟩ := Iri.ofJson_eq_ok.mp succeeds
    cases same
    exact refused _ absolute
  | literal holdsDatatype hasDatatype holdsLanguage hasLanguage =>
    obtain ⟨_, atDatatype, tag?, atLanguage, isLanguage⟩ := Literal.ofJson_reads succeeds
    obtain ⟨iri, _, isIri⟩ := atDatatype.ok_of_holds holdsDatatype hasDatatype
    obtain ⟨tag, _, rfl⟩ := atLanguage.ok_of_holds holdsLanguage hasLanguage
    rcases (Literal.isValid_of_ofJson succeeds).single with none | none
    · rw [isIri] at none
      cases none
    · rw [isLanguage] at none
      cases none

/-- **Documents are screened as a whole.** What is read from a text is valid at every position, and a
text whose value holds an ill-formed IRI or literal at a position where it is read is refused. -/
theorem ofText_screens (form : Form) (text : List Char) :
    (∀ decoded, ofText form.decode text = .ok decoded → form.IsValid decoded) ∧
    ∀ value, (Json.read text).value = some value → HasIllFormed form value →
      ∃ fault, ofText form.decode text = .error fault := by
  constructor
  · intro decoded succeeds
    obtain ⟨value, _, isRead⟩ := ofText_eq_ok.mp succeeds
    exact Form.isValid_of_decode isRead
  · rintro value isValue ⟨sub, part, inside, ill⟩
    cases outcome : ofText form.decode text with
    | error fault => exact ⟨fault, rfl⟩
    | ok decoded =>
      obtain ⟨other, reading, isRead⟩ := ofText_eq_ok.mp outcome
      rw [reading] at isValue
      cases isValue
      exact absurd (accepts_of_part inside ⟨_, decoded, isRead⟩) (not_accepts_of_illFormed ill)

/-- A term in array form with an IRI that has no scheme. -/
example : ofText Form.term.decode "[\"Iri\",\"rel\"]".toList =
    .error (.model (.invalidIri "rel" .missingScheme)) := rfl

end QueryAlgebra.Document
