/-
**Terms read from their texts.**

A lexical form ends at the first quotation mark that is not escaped, so it is read back whatever
follows (`readLexical_display`). An IRI or a name at the end of a term has no such mark: `Term.read`
takes from its `Ending` how their ends are found, and gives the term back wherever they are found
(`read_display`). With nothing after the term, an IRI ends before the last character and a name at
the end, whatever characters they have. So the text of a term determines the term
(`display_injective`).
-/
import QueryAlgebra.Term.Basic

namespace QueryAlgebra

/-! ### Stretches of characters -/

section Stretch

variable {inClass : Char → Bool} {front rest : List Char}

/-- The characters of a class at the front of a text are found with what follows them. -/
theorem takeWhile_stretch (inside : ∀ c ∈ front, inClass c = true)
    (outside : ∀ c, rest.head? = some c → inClass c = false) :
    (front ++ rest).takeWhile inClass = front ∧ (front ++ rest).dropWhile inClass = rest := by
  rw [List.takeWhile_append_of_pos inside, List.dropWhile_append_of_pos inside]
  cases rest with
  | nil => exact ⟨List.append_nil front, rfl⟩
  | cons c rest =>
    have stops : ¬inClass c = true := Bool.eq_false_iff.mp (outside c rfl)
    rw [List.takeWhile_cons_of_neg stops, List.dropWhile_cons_of_neg stops, List.append_nil]
    exact ⟨rfl, rfl⟩

end Stretch

/-! ### Lexical forms -/

namespace Literal

/-- The character that a character after a backslash stands for. -/
def unescaped (mark : Char) : Char :=
  if mark = 'n' then '\n'
  else if mark = 'r' then '\r'
  else if mark = 't' then '\t'
  else mark

/-- Reads a lexical form up to the quotation mark that closes it; with the form comes what follows
the mark. -/
def readLexical : List Char → Option (List Char × List Char)
  | [] => none
  | '"' :: rest => some ([], rest)
  | '\\' :: mark :: rest =>
    (readLexical rest).map fun (text, after) => (unescaped mark :: text, after)
  | c :: rest => (readLexical rest).map fun (text, after) => (c :: text, after)

/-- A displayed character is read as the character. -/
theorem readLexical_displayChar (c : Char) (rest : List Char) :
    readLexical (displayChar c ++ rest) =
      (readLexical rest).map fun (text, after) => (c :: text, after) := by
  by_cases quote : c = '"'
  · rw [quote]
    rfl
  by_cases backslash : c = '\\'
  · rw [backslash]
    rfl
  by_cases newline : c = '\n'
  · rw [newline]
    rfl
  by_cases carriage : c = '\r'
  · rw [carriage]
    rfl
  by_cases tab : c = '\t'
  · rw [tab]
    rfl
  have plain : displayChar c = [c] := by
    rw [displayChar, if_neg quote, if_neg backslash, if_neg newline, if_neg carriage, if_neg tab]
  rw [plain, List.singleton_append]
  simp [readLexical, backslash]

/-- **A displayed lexical form is read back**, whatever follows its closing mark. -/
theorem readLexical_display (text rest : List Char) :
    readLexical (text.flatMap displayChar ++ '"' :: rest) = some (text, rest) := by
  induction text with
  | nil => rfl
  | cons c text inText =>
    rw [List.flatMap_cons, List.append_assoc, readLexical_displayChar, inText]
    rfl

end Literal

/-! ### Terms -/

/-- How the end of a term is found in a text. -/
structure Term.Ending where
  /-- Takes an IRI from the front of a text; its closing bracket is dropped. -/
  iri : List Char → List Char × List Char
  /-- Takes a name from the front of a text. -/
  name : List Char → List Char × List Char

/-- Reads what stands after a lexical form. -/
def Literal.readSuffix (ending : Term.Ending) : List Char → Annotation × List Char
  | '@' :: text => (.language (String.ofList (ending.name text).1), (ending.name text).2)
  | '^' :: '^' :: '<' :: text =>
    (.datatype ⟨String.ofList (ending.iri text).1⟩, (ending.iri text).2)
  | text => (.none, text)

namespace Term

/-- Reads a term; with the term comes what follows it. -/
def read (ending : Ending) : List Char → Option (Term × List Char)
  | '<' :: text => some (.iri ⟨String.ofList (ending.iri text).1⟩, (ending.iri text).2)
  | '"' :: text =>
    (Literal.readLexical text).map fun (lexical, after) =>
      (.literal ⟨String.ofList lexical, (Literal.readSuffix ending after).1⟩,
        (Literal.readSuffix ending after).2)
  | '_' :: ':' :: text =>
    some (.blank ⟨String.ofList (ending.name text).1⟩, (ending.name text).2)
  | '?' :: text => some (.var ⟨String.ofList (ending.name text).1⟩, (ending.name text).2)
  | _ => none

/-- The IRI that stands at the end of a term. -/
def lastIri? : Term → Option Iri
  | iri value => some value
  | literal value => value.datatype?
  | blank _ => none
  | var _ => none

/-- The label, name or language tag that stands at the end of a term. -/
def lastName? : Term → Option String
  | iri _ => none
  | literal value => value.language?
  | blank value => some value.label
  | var value => some value.name

/-- Whether an ending finds the end of a term that is followed by a text. -/
structure EndsBefore (ending : Ending) (rest : List Char) (term : Term) : Prop where
  iri : ∀ iri, term.lastIri? = some iri →
    ending.iri (iri.text.toList ++ '>' :: rest) = (iri.text.toList, rest)
  name : ∀ name, term.lastName? = some name → ending.name (name.toList ++ rest) = (name.toList, rest)
  /-- The text is not taken for what may stand after a lexical form. -/
  clear : ∀ c, rest.head? = some c → c ≠ '@' ∧ c ≠ '^'

end Term

theorem Iri.display_append (value : Iri) (rest : List Char) :
    value.display ++ rest = '<' :: (value.text.toList ++ '>' :: rest) := by
  rw [display, List.append_assoc, List.cons_append, List.singleton_append]

/-- What stands after no lexical form is read as nothing. -/
theorem Literal.readSuffix_clear (ending : Term.Ending) {rest : List Char}
    (clear : ∀ c, rest.head? = some c → c ≠ '@' ∧ c ≠ '^') :
    readSuffix ending rest = (.none, rest) := by
  unfold readSuffix
  split
  · exact absurd rfl (clear '@' rfl).1
  · exact absurd rfl (clear '^' rfl).2
  · rfl

namespace Term

variable {ending : Ending} {rest : List Char}

/-- What is displayed after a lexical form is read back. -/
theorem readSuffix_display {value : Literal} (ends : (literal value).EndsBefore ending rest) :
    Literal.readSuffix ending (Literal.displayAnnotation value.annotation ++ rest) =
      (value.annotation, rest) := by
  obtain ⟨lexical, annotation⟩ := value
  cases annotation with
  | none => exact Literal.readSuffix_clear ending ends.clear
  | datatype iri =>
    show Literal.readSuffix ending ('^' :: '^' :: (iri.display ++ rest)) = _
    rw [Iri.display_append, Literal.readSuffix, ends.iri iri rfl, String.ofList_toList]
  | language tag =>
    show Literal.readSuffix ending ('@' :: (tag.toList ++ rest)) = _
    rw [Literal.readSuffix, ends.name tag rfl, String.ofList_toList]

/-- **A displayed term is read back** wherever the ending finds its end. -/
theorem read_display {term : Term} (ends : term.EndsBefore ending rest) :
    read ending (term.display ++ rest) = some (term, rest) := by
  cases term with
  | iri value =>
    rw [display, Iri.display_append, read, ends.iri value rfl, String.ofList_toList]
  | literal value =>
    have text : (literal value).display ++ rest = '"' :: (value.lexical.toList.flatMap
        Literal.displayChar ++ '"' :: (Literal.displayAnnotation value.annotation ++ rest)) := by
      rw [display, Literal.display, List.append_assoc, List.cons_append, List.cons_append]
    rw [text, read, Literal.readLexical_display, Option.map_some]
    simp only [readSuffix_display ends, String.ofList_toList]
  | blank value =>
    show read ending ('_' :: ':' :: (value.label.toList ++ rest)) = _
    rw [read, ends.name value.label rfl, String.ofList_toList]
  | var value =>
    show read ending ('?' :: (value.name.toList ++ rest)) = _
    rw [read, ends.name value.name rfl, String.ofList_toList]

/-- The ending of a term that nothing follows. -/
def atEnd : Ending := ⟨fun text => (text.dropLast, []), fun text => (text, [])⟩

theorem endsBefore_nil (term : Term) : term.EndsBefore atEnd [] where
  iri iri _ := by
    show ((iri.text.toList ++ ['>']).dropLast, []) = _
    rw [List.dropLast_concat]
  name name _ := by
    show (name.toList ++ [], []) = _
    rw [List.append_nil]
  clear _ first := by cases first

/-- **The text of a term determines the term**, with any characters in its names and its IRI. -/
theorem display_injective : Function.Injective display := by
  intro first second same
  have read := congrArg (fun text => Term.read atEnd (text ++ [])) same
  simp only [read_display (endsBefore_nil _)] at read
  exact (Prod.mk.inj (Option.some.inj read)).1

end Term

end QueryAlgebra
