/-
**What the reader of terms accepts.**

A term that was read is valid (`Term.isValid_of_ofJson`), and its parts are what stands in the
document: each field of a literal is what its member is read as, and the value of a term is read by
the kind that the document names, wherever the two stand (`Term.ofJson_reads`).
-/
import QueryAlgebra.Document.Term
import QueryAlgebra.Proofs.Document.Record
import QueryAlgebra.Proofs.Valid

namespace QueryAlgebra

open Document

/-! ### IRIs and variables -/

/-- The texts of absolute IRIs are read, and nothing else. -/
theorem Iri.ofJson_eq_ok {value : Json} {iri : Iri} :
    ofJson value = .ok iri ↔ value = iri.toJson ∧ iri.IsAbsolute := by
  unfold ofJson
  rw [bind_eq_ok]
  constructor
  · rintro ⟨text, isText, succeeds⟩
    rw [read] at succeeds
    cases parsed : parse text with
    | error fault =>
      rw [parsed] at succeeds
      cases succeeds
    | ok other =>
      rw [parsed] at succeeds
      cases succeeds
      obtain ⟨rfl, _⟩ := parse_eq_ok_iff.mp parsed
      exact ⟨decodeText_eq_ok.mp isText, parsed⟩
  · rintro ⟨rfl, absolute⟩
    refine ⟨iri.text, rfl, ?_⟩
    rw [read, show parse iri.text = .ok iri from absolute]

/-- The variable of a text is read, without its sigil. -/
theorem Variable.ofJson_eq_ok {value : Json} {reference : Variable} :
    ofJson value = .ok reference ↔ ∃ name, value = .ofText name ∧ ofName name = reference := by
  unfold ofJson
  simp only [map_eq_ok, decodeText_eq_ok]

/-! ### Literals -/

namespace Literal

variable {levels : Nat} {value part : Json} {literal : Literal}

/-- The names of the fields of a literal in documents. -/
abbrev fieldNames : List String := ["lexical", "datatype", "language"]

theorem fills_lexical : Fills readField "lexical" Fields.lexical decodeText where
  fills taken := get_of_filled taken fun _ => rfl
  others other taken := by
    unfold readField at taken
    split at taken
    · exact absurd rfl other
    · exact get_of_filled_other taken fun _ => rfl
    · exact get_of_filled_other taken fun _ => rfl
    · rw [pass_eq_ok taken]

theorem fills_datatype :
    Fills readField "datatype" Fields.datatype (decodeNullable Iri.ofJson) where
  fills taken := get_of_filled taken fun _ => rfl
  others other taken := by
    unfold readField at taken
    split at taken
    · exact get_of_filled_other taken fun _ => rfl
    · exact absurd rfl other
    · exact get_of_filled_other taken fun _ => rfl
    · rw [pass_eq_ok taken]

theorem fills_language :
    Fills readField "language" Fields.language (decodeNullable decodeText) where
  fills taken := get_of_filled taken fun _ => rfl
  others other taken := by
    unfold readField at taken
    split at taken
    · exact get_of_filled_other taken fun _ => rfl
    · exact get_of_filled_other taken fun _ => rfl
    · exact absurd rfl other
    · rw [pass_eq_ok taken]

/-- The fields that make a literal have a lexical form and not both a datatype and a language. -/
theorem ofFields_eq_ok {fields : Fields} (accepted : ofFields fields = .ok literal) :
    fields.lexical = some literal.lexical ∧ literal.datatype? = fields.datatype.join ∧
      literal.language? =
        fields.language.join.map fun tag => String.ofList (Text.lowerAscii tag.toList) := by
  unfold ofFields at accepted
  obtain ⟨lexical, isLexical, accepted⟩ := bind_eq_ok.mp accepted
  rw [require_eq_ok.mp isLexical]
  split at accepted
  · cases accepted
  all_goals
    rename_i isDatatype isLanguage
    rw [isDatatype, isLanguage]
    cases accepted
    exact ⟨rfl, rfl, rfl⟩

/-- **The parts of a literal that was read** are those that stand in the document; a datatype or a
language that is null is none, and a language is put in lower case. -/
theorem ofJson_reads (succeeds : ofJson levels value = .ok literal) :
    ReadAt decodeText fieldNames "lexical" value literal.lexical ∧
    ReadAtOptional Iri.ofJson fieldNames "datatype" value literal.datatype? ∧
      ∃ tag?, ReadAtOptional decodeText fieldNames "language" value tag? ∧
        literal.language? = tag?.map fun tag => String.ofList (Text.lowerAscii tag.toList) := by
  cases levels with
  | zero => cases succeeds
  | succ levels =>
    unfold ofJson at succeeds
    obtain ⟨members, fields, opens, _, isRead, accepted⟩ := record_eq_ok.mp succeeds
    obtain ⟨isLexical, isDatatype, isLanguage⟩ := ofFields_eq_ok accepted
    rw [isDatatype]
    exact ⟨fills_lexical.readAt opens isRead rfl isLexical,
      fills_datatype.readAtOptional opens isRead rfl, _,
      fills_language.readAtOptional opens isRead rfl, isLanguage⟩

/-- A literal that was read is valid. -/
theorem isValid_of_ofJson (succeeds : ofJson levels value = .ok literal) : literal.IsValid := by
  obtain ⟨_, atDatatype, tag?, _, isLanguage⟩ := ofJson_reads succeeds
  refine isValid_of_annotation (fun iri isDatatype => ?_) isLanguage
  obtain ⟨part, isPart⟩ := atDatatype.source isDatatype
  exact (Iri.ofJson_eq_ok.mp isPart).2

end Literal

/-! ### Terms -/

namespace Term

variable {levels : Nat} {value part : Json} {term : Term}

/-- The names of the fields of a term in documents. -/
abbrev fieldNames : List String := ["type", "value"]

/-- The kind that was read is the one that the document names. -/
theorem Kind.names_of_ofJson {kind : Kind} (succeeds : Kind.ofJson levels value = .ok kind) :
    Names kind.documentName value := by
  unfold Kind.ofJson at succeeds
  obtain ⟨name, isName, succeeds⟩ := bind_eq_ok.mp succeeds
  have names := names_of_decodeName isName
  split at succeeds <;> cases succeeds <;> exact names

theorem Kind.eq_of_documentName {kind other : Kind}
    (same : kind.documentName = other.documentName) : kind = other := by
  cases kind <;> cases other <;> first | rfl | exact absurd same (by decide)

/-- A value is read as a term of the kind that was asked for. -/
theorem kind_of_ofKind {kind : Kind} (succeeds : ofKind levels value kind = .ok term) :
    term.kind = kind := by
  cases kind <;>
    obtain ⟨_, _, rfl⟩ := map_eq_ok.mp succeeds <;>
    rfl

theorem isValid_of_ofKind {kind : Kind} (succeeds : ofKind levels value kind = .ok term) :
    term.IsValid := by
  cases kind with
  | iri =>
    obtain ⟨_, isRead, rfl⟩ := map_eq_ok.mp succeeds
    exact (Iri.ofJson_eq_ok.mp isRead).2
  | literal =>
    obtain ⟨_, isRead, rfl⟩ := map_eq_ok.mp succeeds
    exact Literal.isValid_of_ofJson isRead
  | blank =>
    obtain ⟨_, _, rfl⟩ := map_eq_ok.mp succeeds
    trivial
  | var =>
    obtain ⟨_, _, rfl⟩ := map_eq_ok.mp succeeds
    trivial

namespace Progress

/-- The steps of reading a term: its kind and its value come in either order, each once. -/
inductive Step (levels : Nat) : Progress → String → Json → Progress → Prop
  | kind {named : Json} {kind : Kind} (isKind : Kind.ofJson levels named = .ok kind) :
    Step levels .nothing "type" named (.kind kind)
  | lateKind {named held : Json} {kind : Kind} {term : Term}
    (isKind : Kind.ofJson levels named = .ok kind) (isTerm : ofKind levels held kind = .ok term) :
    Step levels (.value held) "type" named (.complete term)
  | value {held : Json} : Step levels .nothing "value" held (.value held)
  | lateValue {held : Json} {kind : Kind} {term : Term} (isTerm : ofKind levels held kind = .ok term) :
    Step levels (.kind kind) "value" held (.complete term)
  | other {progress : Progress} {key : String} {passed : Json} (noKind : key ≠ "type")
    (noValue : key ≠ "value") : Step levels progress key passed progress

theorem step_of_readField {before after : Progress} {key : String}
    (taken : readField levels before key value = .ok after) : Step levels before key value after := by
  unfold readField at taken
  split at taken
  · obtain ⟨kind, isKind, rfl⟩ := map_eq_ok.mp taken
    exact .kind isKind
  · obtain ⟨kind, isKind, taken⟩ := bind_eq_ok.mp taken
    obtain ⟨term, isTerm, same⟩ := bind_eq_ok.mp taken
    cases same
    exact .lateKind isKind isTerm
  · cases taken
  · split at taken
    · cases taken
      exact .value
    · cases taken
  · obtain ⟨term, isTerm, rfl⟩ := map_eq_ok.mp taken
    exact .lateValue isTerm
  · cases taken
  · -- every other key is passed over
    rename_i noKind noValue _ _ _ _
    rw [pass_eq_ok taken]
    exact .other noKind noValue

/-- Whether the kind of the term is known to be the one that a document names. -/
def HasKind (levels : Nat) (part : Json) : Progress → Prop
  | .kind known => Kind.ofJson levels part = .ok known
  | .complete term => Kind.ofJson levels part = .ok term.kind
  | _ => False

/-- Whether the value of the term is known to be the one that a document holds. -/
def HasValue (levels : Nat) (part : Json) : Progress → Prop
  | .value held => held = part
  | .complete term => ofKind levels part term.kind = .ok term
  | _ => False

namespace Step

variable {before after : Progress} {key : String}

theorem keeps_kind (step : Step levels before key value after)
    (known : before.HasKind levels part) : after.HasKind levels part := by
  cases step with
  | kind => cases known
  | lateKind => cases known
  | value => cases known
  | lateValue isTerm =>
    cases kind_of_ofKind isTerm
    exact known
  | other => exact known

theorem keeps_value (step : Step levels before key value after)
    (known : before.HasValue levels part) : after.HasValue levels part := by
  cases step with
  | kind => cases known
  | lateKind _ isTerm =>
    cases kind_of_ofKind isTerm
    cases known
    exact isTerm
  | value => cases known
  | lateValue => cases known
  | other => exact known

theorem brings_kind (step : Step levels before key part after) (isType : key = "type") :
    after.HasKind levels part := by
  cases step with
  | kind isKind => exact isKind
  | lateKind isKind isTerm =>
    cases kind_of_ofKind isTerm
    exact isKind
  | value => exact absurd isType (by decide)
  | lateValue => exact absurd isType (by decide)
  | other noKind => exact absurd isType noKind

theorem brings_value (step : Step levels before key part after) (isValue : key = "value") :
    after.HasValue levels part := by
  cases step with
  | kind => exact absurd isValue (by decide)
  | lateKind => exact absurd isValue (by decide)
  | value => exact @rfl Json part
  | lateValue isTerm =>
    cases kind_of_ofKind isTerm
    exact isTerm
  | other _ noValue => exact absurd isValue noValue

end Step

end Progress

/-- A term is read when its members are, to the end. -/
theorem ofJson_eq_ok : ofJson (levels + 1) value = .ok term ↔
    ∃ members, recordMembers fieldNames value = .ok members ∧ members.ending = .closed ∧
      foldEntries (readField levels) .nothing members.entries = .ok (.complete term) := by
  unfold ofJson
  simp only [bind_eq_ok, fold_eq_ok]
  refine exists_congr fun members => and_congr_right fun _ => ?_
  constructor
  · rintro ⟨progress, ⟨isRead, closed⟩, accepted⟩
    cases progress with
    | complete other =>
      cases accepted
      exact ⟨closed, isRead⟩
    | _ => cases accepted
  · rintro ⟨closed, isRead⟩
    exact ⟨_, ⟨isRead, closed⟩, rfl⟩

/-- A term that was read is valid. -/
theorem isValid_of_ofJson (succeeds : ofJson levels value = .ok term) : term.IsValid := by
  cases levels with
  | zero => cases succeeds
  | succ levels =>
    obtain ⟨members, _, _, isRead⟩ := ofJson_eq_ok.mp succeeds
    -- whatever is complete on the way is valid, and it stays as it is
    have kept : ∀ other, Progress.complete term = .complete other → other.IsValid := by
      refine @foldEntries_keeps _ _ Progress.nothing _ _
        (fun progress => ∀ other, progress = Progress.complete other → other.IsValid) ?_ ?_ isRead
      · exact fun other same => by cases same
      · intro before key value after valid taken other same
        subst same
        cases Progress.step_of_readField taken with
        | lateKind _ isTerm => exact isValid_of_ofKind isTerm
        | lateValue isTerm => exact isValid_of_ofKind isTerm
        | other => exact valid other rfl
    exact kept term rfl

/-- **The value of a term that was read** is the one that the document holds, of the kind that the
document names, in whichever order they stand. -/
theorem ofJson_reads {kind : Kind} {named : Json} (succeeds : ofJson (levels + 1) value = .ok term)
    (holdsKind : Holds fieldNames "type" named value) (names : Names kind.documentName named)
    (holdsValue : Holds fieldNames "value" part value) : ofKind levels part kind = .ok term := by
  obtain ⟨members, opens, _, isRead⟩ := ofJson_eq_ok.mp succeeds
  have isKind := @foldEntries_brings _ _ _ _ _ (Progress.HasKind levels named) _ _
    (fun _ _ taken => (Progress.step_of_readField taken).brings_kind rfl)
    (fun _ _ _ _ known taken => (Progress.step_of_readField taken).keeps_kind known) isRead
    (mem_entries_of_holds opens holdsKind)
  have isValue := @foldEntries_brings _ _ _ _ _ (Progress.HasValue levels part) _ _
    (fun _ _ taken => (Progress.step_of_readField taken).brings_value rfl)
    (fun _ _ _ _ known taken => (Progress.step_of_readField taken).keeps_value known) isRead
    (mem_entries_of_holds opens holdsValue)
  rw [Kind.eq_of_documentName (names.unique (Kind.names_of_ofJson isKind))]
  exact isValue

end Term

end QueryAlgebra
