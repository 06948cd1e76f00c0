/-
**Reading what was written.**

The document of a value is read as the value again, as far as its levels suffice. A term comes back
as it was, but for a variable, whose name loses a sigil (`Term.ofJson_toJson`). So an expression or a
pattern that is valid and bare is read as itself (`Expr.ofJson_toJson`, `Pattern.ofJson_toJson`),
from its compact text and from its indented one.
-/
import QueryAlgebra.Proofs.Document.Expr
import QueryAlgebra.Proofs.Document.Pattern
import QueryAlgebra.Proofs.Json.Nesting

namespace QueryAlgebra

open Document

variable {levels : Nat}

/-! ### Terms -/

namespace Literal

theorem isBuilt_toJson (literal : Literal) : literal.toJson.IsBuilt := by
  refine .members (List.forall_mem_cons.mpr ⟨.text _, ?_⟩)
  cases literal.annotation with
  | none => exact List.forall_mem_nil _
  | datatype iri => exact List.forall_mem_singleton.mpr (.text _)
  | language tag => exact List.forall_mem_singleton.mpr (.text _)

/-- The document of a valid literal is read as it. -/
theorem ofJson_toJson {literal : Literal} (valid : literal.IsValid)
    (fits : literal.toJson.nesting ≤ levels) : ofJson levels literal.toJson = .ok literal := by
  obtain ⟨below, rfl, _⟩ := Json.nesting_ofMembers_le.mp fits
  obtain ⟨lexical, annotation⟩ := literal
  cases annotation with
  | none => rfl
  | datatype iri =>
    have isIri : decodeNullable Iri.ofJson iri.toJson = .ok (some iri) :=
      map_eq_ok.mpr ⟨iri, Iri.ofJson_eq_ok.mpr ⟨rfl, valid.absolute iri rfl⟩, rfl⟩
    refine record_eq_ok.mpr ⟨_, ⟨some lexical, some (some iri), none⟩, rfl, rfl, ?_, rfl⟩
    exact foldEntries_cons_eq_ok.mpr ⟨_, _, rfl, rfl, foldEntries_cons_eq_ok.mpr
      ⟨_, _, rfl, taken_of_read rfl isIri, rfl⟩⟩
  | language tag =>
    have same : tagged lexical tag = ⟨lexical, .language tag⟩ := by
      rw [tagged, lowerAscii_eq_self (valid.lower tag rfl), String.ofList_toList]
    exact congrArg Except.ok same

end Literal

namespace Term

/-- What the document of a term is read as: a variable without the sigil that its name may have. -/
def reread : Term → Term
  | .var reference => .var (Variable.ofName reference.name)
  | term => term

theorem reread_eq_self_iff (term : Term) : term.reread = term ↔ term.IsBare := by
  cases term with
  | var reference =>
    rw [reread, Term.var.injEq, ← Variable.isBare_iff]
    exact ⟨fun bare _ same => Option.some.inj same ▸ bare, fun bare => bare reference rfl⟩
  | _ => exact iff_of_true rfl fun _ same => by cases same

theorem isBuilt_toJson (term : Term) : term.toJson.IsBuilt := by
  refine .members (List.forall_mem_cons.mpr ⟨.text _, List.forall_mem_singleton.mpr ?_⟩)
  cases term with
  | literal literal => exact literal.isBuilt_toJson
  | _ => exact .text _

theorem Kind.ofJson_documentName (levels : Nat) (kind : Kind) :
    Kind.ofJson levels (.ofText kind.documentName) = .ok kind := by
  cases kind <;> rfl

/-- The document of the value of a term is read by its kind. -/
theorem ofKind_valueToJson {term : Term} (valid : term.IsValid)
    (fits : term.valueToJson.nesting ≤ levels) :
    ofKind levels term.valueToJson term.kind = .ok term.reread := by
  cases term with
  | iri value => exact map_eq_ok.mpr ⟨value, Iri.ofJson_eq_ok.mpr ⟨rfl, valid⟩, rfl⟩
  | literal value => exact map_eq_ok.mpr ⟨value, Literal.ofJson_toJson valid fits, rfl⟩
  | blank node => rfl
  | var reference => rfl

/-- **The document of a valid term is read as it**, but for the sigil of a variable. -/
theorem ofJson_toJson {term : Term} (valid : term.IsValid) (fits : term.toJson.nesting ≤ levels) :
    ofJson levels term.toJson = .ok term.reread := by
  obtain ⟨below, rfl, fitsParts⟩ := Json.nesting_ofMembers_le.mp fits
  have fitsValue : term.valueToJson.nesting ≤ below := fitsParts ("value", _) (.tail _ (.head _))
  refine ofJson_eq_ok.mpr ⟨_, rfl, rfl, ?_⟩
  refine foldEntries_cons_eq_ok.mpr ⟨_, .kind term.kind, rfl, ?_, foldEntries_cons_eq_ok.mpr
    ⟨_, .complete term.reread, rfl, ?_, rfl⟩⟩
  · exact map_eq_ok.mpr ⟨_, Kind.ofJson_documentName below term.kind, rfl⟩
  · exact map_eq_ok.mpr ⟨_, ofKind_valueToJson valid fitsValue, rfl⟩

end Term

/-! ### Expressions -/

namespace Expr

theorem listToJson_eq_map (exprs : List Expr) : listToJson exprs = exprs.map toJson := by
  induction exprs with
  | nil => rfl
  | cons expr rest inRest => rw [listToJson, inRest, List.map_cons]

theorem isBuilt_toJson (expr : Expr) : expr.toJson.IsBuilt := by
  induction expr with
  | constant term => exact .members (List.forall_mem_singleton.mpr term.isBuilt_toJson)
  | var reference => exact .members (List.forall_mem_singleton.mpr (.text _))
  | compound tag args aggregate inTag inArgs =>
    unfold toJson
    refine .members (List.forall_mem_singleton.mpr (.members ?_))
    refine List.forall_mem_cons.mpr ⟨inTag, List.forall_mem_cons.mpr ⟨.items ?_,
      List.forall_mem_singleton.mpr (.bool aggregate)⟩⟩
    rw [listToJson_eq_map, List.forall_mem_map]
    exact inArgs

/-- **The document of a valid and bare expression is read as it.** -/
theorem ofJson_toJson {expr : Expr} (valid : expr.IsValid) (bare : expr.IsBare)
    (fits : expr.toJson.nesting ≤ levels) : ofJson levels expr.toJson = .ok expr := by
  induction expr generalizing levels with
  | constant term =>
    obtain ⟨below, rfl, fitsTerm⟩ := Json.nesting_ofMembers_le.mp fits
    obtain ⟨validTerm, noVar⟩ := isValid_constant.mp valid
    have isTerm := Term.ofJson_toJson validTerm (fitsTerm _ (.head _))
    have same : ofTerm term.reread = .constant term := by
      cases term with
      | var reference => cases noVar
      | _ => rfl
    have isRead := Member.constant isTerm
    rw [same] at isRead
    exact ofJson_eq_ok.mpr ⟨_, _, rfl, isRead⟩
  | var reference =>
    obtain ⟨below, rfl, _⟩ := Json.nesting_ofMembers_le.mp fits
    have same := (Variable.isBare_iff reference).mp (((isBare_iff _).mp bare).1 reference rfl)
    exact ofJson_eq_ok.mpr ⟨_, _, rfl, .var (Variable.ofJson_eq_ok.mpr ⟨_, rfl, same⟩)⟩
  | compound tag args aggregate inTag inArgs =>
    -- the object, the compound in it and its list of arguments use up one level each
    unfold toJson at fits ⊢
    obtain ⟨outer, rfl, fitsCompound⟩ := Json.nesting_ofMembers_le.mp fits
    obtain ⟨inner, rfl, fitsParts⟩ := Json.nesting_ofMembers_le.mp (fitsCompound _ (.head _))
    have fitsTag : tag.toJson.nesting ≤ inner := fitsParts ("tag", _) (.head _)
    obtain ⟨below, rfl, fitsArgs⟩ :=
      Json.nesting_ofItems_le.mp (fitsParts ("args", _) (.tail _ (.head _)))
    obtain ⟨validTag, validArgs⟩ := isValid_compound.mp valid
    obtain ⟨bareTag, bareArgs⟩ := isBare_compound.mp bare
    rw [listToJson_eq_map, List.forall_mem_map] at fitsArgs
    have isTag := inTag validTag bareTag fitsTag
    have areArgs : argsOfJson (below + 1) (.ofItems (args.map toJson)) = .ok args :=
      decodeList_ofItems_self fun arg member =>
        inArgs arg member (validArgs arg member) (bareArgs arg member) (fitsArgs arg member)
    rw [← listToJson_eq_map] at areArgs
    refine ofJson_eq_ok.mpr ⟨_, _, rfl, .compound (record_eq_ok.mpr
      ⟨_, ⟨some tag, some args, some aggregate⟩, rfl, rfl, ?_, rfl⟩)⟩
    exact foldEntries_cons_eq_ok.mpr ⟨_, _, rfl, taken_of_read rfl isTag,
      foldEntries_cons_eq_ok.mpr ⟨_, _, rfl, taken_of_read rfl areArgs,
        foldEntries_cons_eq_ok.mpr ⟨_, _, rfl, taken_of_read rfl rfl, rfl⟩⟩⟩

end Expr

/-! ### Patterns -/

namespace TriplePattern

theorem isBuilt_toJson (pattern : TriplePattern) : pattern.toJson.IsBuilt :=
  .members (List.forall_mem_cons.mpr ⟨pattern.subject.isBuilt_toJson,
    List.forall_mem_cons.mpr ⟨pattern.predicate.isBuilt_toJson,
      List.forall_mem_singleton.mpr pattern.object.isBuilt_toJson⟩⟩)

/-- The document of a valid and bare triple pattern is read as it. -/
theorem ofJson_toJson {pattern : TriplePattern} (valid : pattern.IsValid)
    (bare : ∀ term ∈ pattern.terms, term.IsBare) (fits : pattern.toJson.nesting ≤ levels) :
    ofJson levels pattern.toJson = .ok pattern := by
  obtain ⟨below, rfl, fitsParts⟩ := Json.nesting_ofMembers_le.mp fits
  have part (term : Term) (isPart : term ∈ pattern.terms) (name : String) (validPart : term.IsValid)
      (listed : (name, term.toJson) ∈ [("subject", pattern.subject.toJson),
        ("predicate", pattern.predicate.toJson), ("object", pattern.object.toJson)]) :
      Term.ofJson below term.toJson = .ok term := by
    have isTerm := Term.ofJson_toJson validPart (fitsParts _ listed)
    rwa [(Term.reread_eq_self_iff term).mpr (bare term isPart)] at isTerm
  have isSubject := part pattern.subject (by simp [terms]) "subject" valid.subject (by simp)
  have isPredicate := part pattern.predicate (by simp [terms]) "predicate" valid.predicate (by simp)
  have isObject := part pattern.object (by simp [terms]) "object" valid.object (by simp)
  refine record_eq_ok.mpr
    ⟨_, ⟨some pattern.subject, some pattern.predicate, some pattern.object⟩, rfl, rfl, ?_, rfl⟩
  exact foldEntries_cons_eq_ok.mpr ⟨_, _, rfl, taken_of_read rfl isSubject,
    foldEntries_cons_eq_ok.mpr ⟨_, _, rfl, taken_of_read rfl isPredicate,
      foldEntries_cons_eq_ok.mpr ⟨_, _, rfl, taken_of_read rfl isObject, rfl⟩⟩⟩

end TriplePattern

namespace Pattern

theorem isBuilt_toJson (pattern : Pattern) : pattern.toJson.IsBuilt := by
  refine .members (List.forall_mem_cons.mpr ⟨.items ?_, ?_⟩)
  · exact List.forall_mem_map.mpr fun triple _ => triple.isBuilt_toJson
  · exact List.forall_mem_map.mpr fun graph _ => graph.isBuilt_toJson

/-- **The document of a valid and bare pattern is read as it.** -/
theorem ofJson_toJson {pattern : Pattern} (valid : pattern.IsValid) (bare : pattern.IsBare)
    (fits : pattern.toJson.nesting ≤ levels) : ofJson levels pattern.toJson = .ok pattern := by
  obtain ⟨below, rfl, fitsParts⟩ := Json.nesting_ofMembers_le.mp fits
  obtain ⟨fitsTriples, fitsGraph⟩ := List.forall_mem_cons.mp fitsParts
  obtain ⟨inner, rfl, fitsEach⟩ := Json.nesting_ofItems_le.mp fitsTriples
  rw [List.forall_mem_map] at fitsEach
  have areTriples : triplesOfJson (inner + 1) (.ofItems (pattern.triples.map TriplePattern.toJson)) =
      .ok pattern.triples := decodeList_ofItems_self fun triple member =>
    TriplePattern.ofJson_toJson (valid.triples triple member) (bare.triples triple member)
      (fitsEach triple member)
  obtain ⟨triples, graph?⟩ := pattern
  cases graph? with
  | none =>
    refine record_eq_ok.mpr ⟨_, ⟨some triples, none⟩, rfl, rfl, ?_, rfl⟩
    exact foldEntries_cons_eq_ok.mpr ⟨_, _, rfl, taken_of_read rfl areTriples, rfl⟩
  | some graph =>
    have isTerm := Term.ofJson_toJson (valid.graph graph rfl) (fitsGraph ("graph_name", _) (.head _))
    rw [(Term.reread_eq_self_iff graph).mpr (bare.graph graph rfl)] at isTerm
    have isGraph : decodeNullable (Term.ofJson (inner + 1)) graph.toJson = .ok (some graph) :=
      map_eq_ok.mpr ⟨graph, isTerm, rfl⟩
    refine record_eq_ok.mpr ⟨_, ⟨some triples, some (some graph)⟩, rfl, rfl, ?_, rfl⟩
    exact foldEntries_cons_eq_ok.mpr ⟨_, _, rfl, taken_of_read rfl areTriples,
      foldEntries_cons_eq_ok.mpr ⟨_, _, rfl, taken_of_read rfl isGraph, rfl⟩⟩

end Pattern

/-! ### Texts -/

namespace Document

/-- Whether a value is read from both texts of its document, the compact and the indented one. -/
def IsReread {α : Type} (decode : (levels : Nat) → Json → Decoded α) (encode : α → Json)
    (value : α) : Prop :=
  ofText decode (encode value).print = .ok value ∧
    ofText decode ((encode value).printLines 0) = .ok value

theorem isReread_of_ofJson {α : Type} {decode : (levels : Nat) → Json → Decoded α}
    {encode : α → Json} {value : α} (built : (encode value).IsBuilt)
    (reads : decode greatestLevels (encode value) = .ok value) : IsReread decode encode value :=
  ⟨(ofText_print built).trans reads, (ofText_printLines built 0).trans reads⟩

/-- **An expression and a pattern are read as they were written**, when they are valid and bare and
their documents are not nested too deep. -/
theorem isReread_of_isValid :
    (∀ expr : Expr, expr.IsValid → expr.IsBare → expr.toJson.nesting ≤ greatestLevels →
      IsReread Expr.ofJson Expr.toJson expr) ∧
    ∀ pattern : Pattern, pattern.IsValid → pattern.IsBare →
      pattern.toJson.nesting ≤ greatestLevels → IsReread Pattern.ofJson Pattern.toJson pattern :=
  ⟨fun expr valid bare fits =>
      isReread_of_ofJson expr.isBuilt_toJson (Expr.ofJson_toJson valid bare fits),
    fun pattern valid bare fits =>
      isReread_of_ofJson pattern.isBuilt_toJson (Pattern.ofJson_toJson valid bare fits)⟩

/-- The count of a variable, as an aggregate. -/
theorem isReread_of_isValid_count :
    IsReread Expr.ofJson Expr.toJson (.compound (.constant (.iri ⟨"x:count"⟩)) [.var ⟨"a"⟩] true) := by
  have absolute : Iri.IsAbsolute ⟨"x:count"⟩ := by decide
  refine isReread_of_isValid.1 _ ?_ ?_ (by decide)
  · exact Expr.isValid_compound.mpr ⟨Expr.isValid_constant.mpr ⟨absolute, rfl⟩,
      List.forall_mem_singleton.mpr (Expr.isValid_var _)⟩
  · unfold Expr.IsBare
    decide

end Document

end QueryAlgebra
