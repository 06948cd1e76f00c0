/-
**What is printed of terms and of solutions.**

`ShowsTerm` and `ShowsSolutions` say which texts these are: the display of a term, the displays of
solutions one on a line, or their documents on one line or indented. A term is determined by its
text in each format (`ShowsTerm.unique`): its display determines it, and so does its document, which
is read from both of its texts. From the document of valid solutions these are read again, but for
the sigils of variables (`ShowsSolutions.ofText_eq`).
-/
import QueryAlgebra.Command.Run
import QueryAlgebra.Proofs.Document.Rereading
import QueryAlgebra.Proofs.Term.Display

namespace QueryAlgebra

/-! ### Texts of values -/

theorem Json.eq_of_text {value other : Json} (built : value.IsBuilt) (otherBuilt : other.IsBuilt)
    (same : value.text = other.text) : value = other := by
  have isValue := read_print built
  rw [String.ofList_injective same, read_print otherBuilt] at isValue
  cases isValue
  rfl

theorem Json.eq_of_indentedText {value other : Json} (built : value.IsBuilt)
    (otherBuilt : other.IsBuilt) (same : value.indentedText = other.indentedText) :
    value = other := by
  have isValue := read_printLines built 0
  rw [String.ofList_injective same, read_printLines otherBuilt] at isValue
  cases isValue
  rfl

/-! ### Documents of terms -/

theorem Json.ofText_injective : Function.Injective ofText := by
  intro text other same
  cases same
  rfl

theorem Json.ofMembers_injective : Function.Injective ofMembers := by
  intro members others same
  refine List.map_injective_iff.mpr ?_ (Json.object.inj same).1
  rintro ⟨name, value⟩ ⟨otherName, otherValue⟩ sameMember
  cases sameMember
  rfl

theorem Iri.toJson_injective : Function.Injective toJson := by
  rintro ⟨text⟩ ⟨other⟩ same
  exact congrArg Iri.mk (Json.ofText_injective same)

theorem Literal.toJson_injective : Function.Injective toJson := by
  rintro ⟨lexical, annotation⟩ ⟨otherLexical, otherAnnotation⟩ same
  obtain ⟨sameLexical, sameRest⟩ := List.cons.inj (Json.ofMembers_injective same)
  cases Json.ofText_injective (Prod.mk.inj sameLexical).2
  refine congrArg (Literal.mk lexical) ?_
  cases annotation with
  | none => cases otherAnnotation <;> first | rfl | cases sameRest
  | datatype iri =>
    cases otherAnnotation with
    | none => cases sameRest
    | datatype other =>
      have sameIri := (Prod.mk.inj (List.cons.inj sameRest).1).2
      exact congrArg Annotation.datatype (Iri.toJson_injective sameIri)
    | language tag => exact absurd (Prod.mk.inj (List.cons.inj sameRest).1).1 (by decide)
  | language tag =>
    cases otherAnnotation with
    | none => cases sameRest
    | datatype iri => exact absurd (Prod.mk.inj (List.cons.inj sameRest).1).1 (by decide)
    | language other =>
      have sameTag := (Prod.mk.inj (List.cons.inj sameRest).1).2
      exact congrArg Annotation.language (Json.ofText_injective sameTag)

/-- The kind and the value of a term are in its document. -/
theorem Term.toJson_injective : Function.Injective toJson := by
  intro term other same
  obtain ⟨sameKind, sameRest⟩ := List.cons.inj (Json.ofMembers_injective same)
  have sameValue := (Prod.mk.inj (List.cons.inj sameRest).1).2
  have kind := Kind.eq_of_documentName (Json.ofText_injective (Prod.mk.inj sameKind).2)
  cases term <;> cases other <;> try cases kind
  · exact congrArg Term.iri (Iri.toJson_injective sameValue)
  · exact congrArg Term.literal (Literal.toJson_injective sameValue)
  · exact congrArg (Term.blank ∘ BlankNode.mk) (Json.ofText_injective sameValue)
  · exact congrArg (Term.var ∘ Variable.mk) (Json.ofText_injective sameValue)

namespace Command

/-! ### Texts of results -/

/-- What stands for a value in each format: its text, or its document on one line or indented. -/
inductive Shows (text : String) (document : Json) : OutputFormat → String → Prop
  | text : Shows text document .text text
  | json : Shows text document .json (String.ofList document.print)
  | indentedJson : Shows text document .indentedJson (String.ofList (document.printLines 0))

/-- What is printed of a term. -/
def ShowsTerm (term : Term) : OutputFormat → String → Prop :=
  Shows (String.ofList term.display) term.toJson

/-- What is printed of solutions, of which each has a line in a text. -/
def ShowsSolutions (solutions : Solutions) : OutputFormat → String → Prop :=
  Shows ("\n".intercalate (solutions.map fun solution => String.ofList solution.display))
    (Solutions.toJson solutions)

variable {format : OutputFormat} {content : String}

theorem shows_iff {text : String} {document : Json} :
    Shows text document format content ↔ render format text document = content := by
  constructor
  · intro shows
    cases shows <;> rfl
  · rintro rfl
    cases format with
    | text => exact .text
    | json => exact .json
    | indentedJson => exact .indentedJson

/-- In every format there is a text of a value. -/
theorem exists_shows (format : OutputFormat) (text : String) (document : Json) :
    ∃ content, Shows text document format content := ⟨_, shows_iff.mpr rfl⟩

theorem showsTerm_iff {term : Term} :
    ShowsTerm term format content ↔ render format term.text term.toJson = content := shows_iff

theorem showsSolutions_iff {solutions : Solutions} : ShowsSolutions solutions format content ↔
    render format (solutionLines solutions) (Solutions.toJson solutions) = content := by
  have lines : solutionLines solutions =
      "\n".intercalate (solutions.map fun solution => String.ofList solution.display) := by
    refine String.toList_injective ?_
    rw [String.toList_intercalate, solutionLines, String.toList_ofList, List.map_map]
    exact congrArg _ (List.map_congr_left fun solution _ => (String.toList_ofList).symm)
  rw [lines]
  exact shows_iff

/-- **A term is determined by what is printed of it**, in whatever format. -/
theorem ShowsTerm.unique {term other : Term} (first : ShowsTerm term format content)
    (second : ShowsTerm other format content) : term = other := by
  have same := (showsTerm_iff.mp first).trans (showsTerm_iff.mp second).symm
  cases format with
  | text => exact Term.display_injective (String.ofList_injective same)
  | json =>
    exact Term.toJson_injective (Json.eq_of_text term.isBuilt_toJson other.isBuilt_toJson same)
  | indentedJson =>
    exact Term.toJson_injective
      (Json.eq_of_indentedText term.isBuilt_toJson other.isBuilt_toJson same)

/-- **The document of valid solutions is read as them**, but for the sigils of variables. -/
theorem ShowsSolutions.ofText_eq {solutions : Solutions}
    (shows : ShowsSolutions solutions format content) (isDocument : format ≠ .text)
    (valid : solutions.IsValid) :
    Document.ofText Solutions.ofJson content.toList = .ok (solutions.map Solution.reread) := by
  cases shows with
  | text => exact absurd rfl isDocument
  | json =>
    rw [String.toList_ofList, Document.ofText_print (Solutions.isBuilt_toJson solutions)]
    exact Solutions.ofJson_toJson valid
  | indentedJson =>
    rw [String.toList_ofList, Document.ofText_printLines (Solutions.isBuilt_toJson solutions)]
    exact Solutions.ofJson_toJson valid

end Command

end QueryAlgebra
