/-
**What a document is refused for.**

A document that is refused because a term in it does not exist holds that term at a position where it
is read: an IRI with the text and the fault of the error, or a literal with its lexical form and with
both a datatype and a language (`exists_part_of_model_error`). So the ill-formed values at the
positions that `Reads` names are all that documents are refused for, besides their form.
-/
import QueryAlgebra.Proofs.Document.Screening

namespace QueryAlgebra.Document

variable {levels : Nat} {value : Json} {error : ModelError}

/-! ### Faults of fields -/

section Fields

variable {α σ : Type} {step : σ → String → Json → Decoded σ} {start : σ}
  {entries : List (Option String × Json)}

theorem error_of_fill {field : Option α} {decoded : Decoded α}
    (fails : fill field decoded = .error (.model error)) : decoded = .error (.model error) := by
  cases field with
  | some _ => cases fails
  | none => exact map_eq_error.mp fails

/-- Where a step that fills a field fails for a term, reading the field did. -/
theorem error_of_filled {field : Option α} {decoded : Decoded α} {update : Option α → σ}
    (fails : (do return update (← fill field decoded)) = Except.error (DecodeFault.model error)) :
    decoded = .error (.model error) := by
  rcases bind_eq_error.mp fails with fails | ⟨_, _, fails⟩
  · exact error_of_fill fails
  · cases fails

theorem require_ne_error {field : Option α} : require field ≠ .error (.model error) := by
  cases field <;> exact fun same => by cases same

theorem pass_ne_error {state : σ} : pass state value ≠ .error (.model error) := by
  unfold pass
  split <;> exact fun same => by cases same

theorem decodeText_ne_error : decodeText value ≠ .error (.model error) := by
  unfold decodeText
  split <;> exact fun same => by cases same

theorem decodeNullable_eq_error {decode : Json → Decoded α} {fault : DecodeFault}
    (fails : decodeNullable decode value = .error fault) :
    value ≠ .null ∧ decode value = .error fault := by
  cases value with
  | null => cases fails
  | _ => exact ⟨fun same => (by cases same), map_eq_error.mp fails⟩

/-- Where members fail for a term that does not exist, one of them does, after those before it. -/
theorem exists_step_of_error (fails : foldEntries step start entries = .error (.model error)) :
    ∃ front before key value back, entries = front ++ (some key, value) :: back ∧
      foldEntries step start front = .ok before ∧
      step before key value = .error (.model error) := by
  induction entries generalizing start with
  | nil => cases fails
  | cons entry rest inRest =>
    obtain ⟨key?, value⟩ := entry
    cases key? with
    | none => cases fails
    | some key =>
      rcases bind_eq_error.mp fails with fails | ⟨after, taken, fails⟩
      · exact ⟨[], start, key, value, rest, rfl, rfl, fails⟩
      · obtain ⟨front, before, other, part, back, rfl, isRead, stepFails⟩ := inRest fails
        exact ⟨(some key, value) :: front, before, other, part, back, rfl,
          foldEntries_cons_eq_ok.mpr ⟨key, after, rfl, taken, isRead⟩, stepFails⟩

/-- What is among the members stands at its field. -/
theorem holds_of_mem_entries {fields : List String} {name : String} {part : Json}
    {members : Members} (opens : recordMembers fields value = .ok members)
    (listed : (some name, part) ∈ members.entries) : Holds fields name part value := by
  unfold recordMembers at opens
  split at opens
  · cases opens
    exact .member listed
  · cases opens
    obtain ⟨number, isEntry⟩ := List.getElem?_of_mem listed
    obtain ⟨named, stands⟩ := List.getElem?_zip_eq_some.mp isEntry
    rw [List.getElem?_map] at named
    obtain ⟨_, named, same⟩ := Option.map_eq_some_iff.mp named
    cases same
    exact .place named stands
  · cases opens

/-- A step of reading a record fails for a term that does not exist, after some of the members. -/
structure FailsAt (step : σ → String → Json → Decoded σ) (start : σ) (fields : List String)
    (value : Json) (error : ModelError) (before : σ) (key : String) (part : Json) : Prop where
  holds : Holds fields key part value
  fails : step before key part = .error (.model error)
  after : ∃ front, foldEntries step start front = .ok before ∧
    ∀ {name part}, (some name, part) ∈ front → Holds fields name part value

/-- A record fails for a term that does not exist at one of its fields, or at its end. -/
theorem record_eq_error {fields : List String} {finish : σ → Decoded α}
    (fails : (do
      let members ← recordMembers fields value
      finish (← members.fold step start)) = .error (.model error)) :
    (∃ before key part, FailsAt step start fields value error before key part) ∨
      ∃ members state, recordMembers fields value = .ok members ∧
        foldEntries step start members.entries = .ok state ∧
        finish state = .error (.model error) := by
  rcases bind_eq_error.mp fails with fails | ⟨members, opens, fails⟩
  · unfold recordMembers at fails
    split at fails <;> cases fails
  rcases bind_eq_error.mp fails with fails | ⟨state, succeeds, fails⟩
  · rcases bind_eq_error.mp fails with fails | ⟨_, _, fails⟩
    · obtain ⟨front, before, key, part, back, same, isRead, fails⟩ := exists_step_of_error fails
      refine .inl ⟨before, key, part, holds_of_mem_entries opens ?_, fails, front, isRead,
        fun listed => holds_of_mem_entries opens ?_⟩
      · rw [same]
        exact List.mem_append_right _ List.mem_cons_self
      · rw [same]
        exact List.mem_append_left _ listed
    · split at fails <;> cases fails
  · exact .inr ⟨members, state, opens, (fold_eq_ok.mp succeeds).1, fails⟩

theorem decodeItems_eq_error {decode : Json → Decoded α} {items : List Json} {fault : DecodeFault}
    (fails : decodeItems decode items = .error fault) :
    ∃ item ∈ items, decode item = .error fault := by
  induction items with
  | nil => cases fails
  | cons item rest inRest =>
    rcases bind_eq_error.mp fails with fails | ⟨_, _, fails⟩
    · exact ⟨item, List.mem_cons_self, fails⟩
    · rcases bind_eq_error.mp fails with fails | ⟨_, _, fails⟩
      · obtain ⟨failing, member, fails⟩ := inRest fails
        exact ⟨failing, .tail _ member, fails⟩
      · cases fails

/-- A list fails for a term that does not exist at one of its items. -/
theorem decodeList_eq_error {decode : Json → Decoded α}
    (fails : decodeList decode value = .error (.model error)) :
    ∃ items ending, value = .array items ending ∧
      ∃ item ∈ items, decode item = .error (.model error) := by
  cases value with
  | array items ending =>
    refine ⟨items, ending, rfl, ?_⟩
    rcases bind_eq_error.mp fails with fails | ⟨_, _, fails⟩
    · exact decodeItems_eq_error fails
    · split at fails <;> cases fails
  | _ => cases fails

end Fields

/-! ### Faults of documents -/

/-- Whether an error says what is wrong with a value of a form. -/
inductive Explains : ModelError → Form → Json → Prop
  | iri {text : String} {fault : IriFault} (refused : Iri.parse text = .error fault) :
    Explains (.invalidIri text fault) .iri (.ofText text)
  | literal {lexical : String} {value datatype language : Json}
    (holdsLexical : Holds Literal.fieldNames "lexical" (.ofText lexical) value)
    (holdsDatatype : Holds Literal.fieldNames "datatype" datatype value)
    (hasDatatype : datatype ≠ .null)
    (holdsLanguage : Holds Literal.fieldNames "language" language value)
    (hasLanguage : language ≠ .null) : Explains (.invalidLiteral lexical) .literal value

/-- A value that an error explains is ill-formed. -/
theorem Explains.illFormed {form : Form} (explains : Explains error form value) :
    IllFormed form value := by
  cases explains with
  | iri refused => exact .iri fun iri parsed => by rw [refused] at parsed; cases parsed
  | literal _ holdsDatatype hasDatatype holdsLanguage hasLanguage =>
    exact .literal holdsDatatype hasDatatype holdsLanguage hasLanguage

/-- Whether an error says what is wrong with a part of a document. -/
def Blames (error : ModelError) (form : Form) (value : Json) : Prop :=
  ∃ sub part, Part form value sub part ∧ Explains error sub part

theorem Blames.whole {form : Form} (explains : Explains error form value) :
    Blames error form value := ⟨form, value, .whole form value, explains⟩

theorem Blames.inside {form middle : Form} {held : Json} (reads : Reads form value middle held)
    (blames : Blames error middle held) : Blames error form value := by
  obtain ⟨sub, part, rest, explains⟩ := blames
  exact ⟨sub, part, .inside reads rest, explains⟩

theorem blames_iri (fails : Iri.ofJson value = .error (.model error)) : Blames error .iri value := by
  rcases bind_eq_error.mp fails with fails | ⟨text, isText, fails⟩
  · exact absurd fails decodeText_ne_error
  · rw [decodeText_eq_ok.mp isText]
    unfold Iri.read at fails
    cases parsed : Iri.parse text with
    | ok iri =>
      rw [parsed] at fails
      cases fails
    | error fault =>
      rw [parsed] at fails
      cases fails
      exact .whole (.iri parsed)

/-- The fields that make no literal have both a datatype and a language. -/
theorem ofFields_eq_error {fields : Literal.Fields}
    (fails : Literal.ofFields fields = .error (.model error)) :
    ∃ lexical datatype tag, error = .invalidLiteral lexical ∧ fields.lexical = some lexical ∧
      fields.datatype = some (some datatype) ∧ fields.language = some (some tag) := by
  unfold Literal.ofFields at fails
  rcases bind_eq_error.mp fails with fails | ⟨lexical, isLexical, fails⟩
  · exact absurd fails require_ne_error
  · split at fails
    · rename_i datatype tag isDatatype isLanguage
      cases fails
      exact ⟨lexical, datatype, tag, rfl, require_eq_ok.mp isLexical,
        Option.join_eq_some_iff.mp isDatatype, Option.join_eq_some_iff.mp isLanguage⟩
    all_goals cases fails

theorem blames_literal (fails : Literal.ofJson levels value = .error (.model error)) :
    Blames error .literal value := by
  cases levels with
  | zero => cases fails
  | succ levels =>
    rcases record_eq_error fails with ⟨before, key, part, holds, fails, _⟩ |
      ⟨members, fields, opens, succeeds, fails⟩
    · unfold Literal.readField at fails
      split at fails
      · exact absurd (error_of_filled fails) decodeText_ne_error
      · obtain ⟨present, fails⟩ := decodeNullable_eq_error (error_of_filled fails)
        exact .inside (.datatype holds present) (blames_iri fails)
      · exact absurd (decodeNullable_eq_error (error_of_filled fails)).2 decodeText_ne_error
      · exact absurd fails pass_ne_error
    · obtain ⟨lexical, datatype, tag, rfl, isLexical, isDatatype, isLanguage⟩ :=
        ofFields_eq_error fails
      obtain ⟨lexicalPart, lexicalListed, lexicalRead⟩ :=
        Literal.fills_lexical.exists_mem_of_get succeeds rfl isLexical
      obtain ⟨datatypePart, datatypeListed, datatypeRead⟩ :=
        Literal.fills_datatype.exists_mem_of_get succeeds rfl isDatatype
      obtain ⟨languagePart, languageListed, languageRead⟩ :=
        Literal.fills_language.exists_mem_of_get succeeds rfl isLanguage
      cases decodeText_eq_ok.mp lexicalRead
      have present {α : Type} {decode : Json → Decoded α} {part : Json} {decoded : α}
          (isRead : decodeNullable decode part = .ok (some decoded)) : part ≠ .null := by
        rintro rfl
        cases isRead
      exact .whole (.literal (holds_of_mem_entries opens lexicalListed)
        (holds_of_mem_entries opens datatypeListed) (present datatypeRead)
        (holds_of_mem_entries opens languageListed) (present languageRead))

/-- A name that is no kind of term is a fault of the form of the document. -/
theorem kind_ne_error : Term.Kind.ofJson levels value ≠ .error (.model error) := by
  intro fails
  rcases bind_eq_error.mp fails with fails | ⟨_, _, fails⟩
  · unfold decodeName at fails
    split at fails <;> cases fails
  · split at fails <;> cases fails

/-- The value of a term of a kind is to blame where it is read by that kind. -/
theorem blames_ofKind {kind : Term.Kind} {named part : Json}
    (isKind : Term.Kind.ofJson levels named = .ok kind)
    (holdsKind : Holds Term.fieldNames "type" named value)
    (holdsValue : Holds Term.fieldNames "value" part value)
    (fails : Term.ofKind levels part kind = .error (.model error)) : Blames error .term value := by
  have names := Term.Kind.names_of_ofJson isKind
  cases kind with
  | iri => exact .inside (.iri holdsKind names holdsValue) (blames_iri (map_eq_error.mp fails))
  | literal =>
    exact .inside (.literal holdsKind names holdsValue) (blames_literal (map_eq_error.mp fails))
  | blank => exact absurd (map_eq_error.mp (map_eq_error.mp fails)) decodeText_ne_error
  | var => exact absurd (map_eq_error.mp (map_eq_error.mp fails)) decodeText_ne_error

/-- A value that is held was a member. -/
theorem listed_of_held {entries : List (Option String × Json)} {held : Json}
    (succeeds : foldEntries (Term.readField levels) .nothing entries = .ok (.value held)) :
    (some "value", held) ∈ entries := by
  obtain ⟨before, key, part, after, listed, notYet, taken, now⟩ :=
    @exists_step_of_holds _ _ _ _ _ (fun progress => progress = Term.Progress.value held)
      (fun same => by cases same) rfl succeeds
  cases now
  cases Term.Progress.step_of_readField taken with
  | value => exact listed
  | other => exact absurd rfl notYet

/-- A kind that is known was read from a member. -/
theorem listed_of_kind {entries : List (Option String × Json)} {kind : Term.Kind}
    (succeeds : foldEntries (Term.readField levels) .nothing entries = .ok (.kind kind)) :
    ∃ named, (some "type", named) ∈ entries ∧ Term.Kind.ofJson levels named = .ok kind := by
  obtain ⟨before, key, part, after, listed, notYet, taken, now⟩ :=
    @exists_step_of_holds _ _ _ _ _ (fun progress => progress = Term.Progress.kind kind)
      (fun same => by cases same) rfl succeeds
  cases now
  cases Term.Progress.step_of_readField taken with
  | kind isKind => exact ⟨part, listed, isKind⟩
  | other => exact absurd rfl notYet

theorem blames_term (fails : Term.ofJson levels value = .error (.model error)) :
    Blames error .term value := by
  cases levels with
  | zero => cases fails
  | succ levels =>
    rcases record_eq_error fails with ⟨before, key, part, holds, fails, front, isRead, listed⟩ |
      ⟨_, progress, _, _, fails⟩
    · -- the value fails with the later of the two members: the kind, or the value itself
      unfold Term.readField at fails
      split at fails
      · exact absurd (map_eq_error.mp fails) kind_ne_error
      · rcases bind_eq_error.mp fails with fails | ⟨kind, isKind, fails⟩
        · exact absurd fails kind_ne_error
        · rcases bind_eq_error.mp fails with fails | ⟨_, _, fails⟩
          · exact blames_ofKind isKind holds (listed (listed_of_held isRead)) fails
          · cases fails
      · cases fails
      · split at fails <;> cases fails
      · obtain ⟨named, namedListed, isKind⟩ := listed_of_kind isRead
        exact blames_ofKind isKind (listed namedListed) holds (map_eq_error.mp fails)
      · cases fails
      · exact absurd fails pass_ne_error
    · split at fails <;> cases fails

/-- A compound fails for a term that does not exist at its tag or at one of its arguments. -/
theorem exists_operand_of_error {members : List (Option String × Json)} {ending : Ending}
    {compound : Json} (listed : (some "Compound", compound) ∈ members)
    (fails : Expr.compoundOfJson levels compound = .error (.model error)) :
    ∃ part below, below < levels ∧ Reads .expression (.object members ending) .expression part ∧
      Expr.ofJson below part = .error (.model error) := by
  cases levels with
  | zero => cases fails
  | succ levels =>
    unfold Expr.compoundOfJson at fails
    rcases record_eq_error fails with ⟨before, key, part, holds, fails, _⟩ | ⟨_, fields, _, _, fails⟩
    · unfold Expr.readField at fails
      split at fails
      · exact ⟨part, levels, Nat.lt_succ_self _, .tag listed holds, error_of_filled fails⟩
      · have fails := error_of_filled fails
        cases levels with
        | zero => cases fails
        | succ levels =>
          obtain ⟨items, argsEnding, rfl, item, member, fails⟩ := decodeList_eq_error fails
          exact ⟨item, levels, by omega, .argument listed holds member, fails⟩
      · have fails := error_of_filled fails
        unfold decodeBool at fails
        split at fails <;> cases fails
      · exact absurd fails pass_ne_error
    · exact absurd fails (bind_ne_error require_ne_error fun _ _ =>
        bind_ne_error require_ne_error fun _ _ same => by cases same)

theorem blames_expression (fails : Expr.ofJson levels value = .error (.model error)) :
    Blames error .expression value := by
  induction levels using Nat.strongRecOn generalizing value with
  | ind levels inLevels =>
    unfold Expr.ofJson at fails
    split at fails
    · cases fails
    · rename_i levels form part rest ending
      dsimp only at fails
      split at fails
      · rcases bind_eq_error.mp fails with fails | ⟨_, _, fails⟩
        · exact .inside (.constant List.mem_cons_self) (blames_term (map_eq_error.mp fails))
        · split at fails <;> cases fails
      · rcases bind_eq_error.mp fails with fails | ⟨_, _, fails⟩
        · exact absurd (map_eq_error.mp (map_eq_error.mp fails)) decodeText_ne_error
        · split at fails <;> cases fails
      · rcases bind_eq_error.mp fails with fails | ⟨_, _, fails⟩
        · obtain ⟨operand, below, lower, reads, fails⟩ :=
            exists_operand_of_error List.mem_cons_self fails
          exact .inside reads (inLevels below (by omega) fails)
        · split at fails <;> cases fails
      · rcases bind_eq_error.mp fails with fails | ⟨_, isRead, _⟩
        · cases fails
        · cases isRead
    · cases fails

theorem blames_triple (fails : Triple.ofJson levels value = .error (.model error)) :
    Blames error .triple value := by
  cases levels with
  | zero => cases fails
  | succ levels =>
    rcases record_eq_error fails with ⟨before, key, part, holds, fails, _⟩ | ⟨_, fields, _, _, fails⟩
    · unfold Triple.readField at fails
      split at fails
      · exact .inside (.subject holds) (blames_term (error_of_filled fails))
      · exact .inside (.predicate holds) (blames_iri (error_of_filled fails))
      · exact .inside (.object holds) (blames_term (error_of_filled fails))
      · exact absurd fails pass_ne_error
    · exact absurd fails (bind_ne_error require_ne_error fun _ _ =>
        bind_ne_error require_ne_error fun _ _ => bind_ne_error require_ne_error fun _ _ same => by cases same)

theorem blames_triplePattern (fails : TriplePattern.ofJson levels value = .error (.model error)) :
    Blames error .triplePattern value := by
  cases levels with
  | zero => cases fails
  | succ levels =>
    rcases record_eq_error fails with ⟨before, key, part, holds, fails, _⟩ | ⟨_, fields, _, _, fails⟩
    · unfold TriplePattern.readField at fails
      split at fails
      · exact .inside (.position (by decide) holds) (blames_term (error_of_filled fails))
      · exact .inside (.position (by decide) holds) (blames_term (error_of_filled fails))
      · exact .inside (.position (by decide) holds) (blames_term (error_of_filled fails))
      · exact absurd fails pass_ne_error
    · exact absurd fails (bind_ne_error require_ne_error fun _ _ =>
        bind_ne_error require_ne_error fun _ _ => bind_ne_error require_ne_error fun _ _ same => by cases same)

theorem blames_pattern (fails : Pattern.ofJson levels value = .error (.model error)) :
    Blames error .pattern value := by
  cases levels with
  | zero => cases fails
  | succ levels =>
    rcases record_eq_error fails with ⟨before, key, part, holds, fails, _⟩ | ⟨_, fields, _, _, fails⟩
    · unfold Pattern.readField at fails
      split at fails
      · have fails := error_of_filled fails
        cases levels with
        | zero => cases fails
        | succ levels =>
          obtain ⟨items, ending, rfl, item, member, fails⟩ := decodeList_eq_error fails
          exact .inside (.triplePattern holds member) (blames_triplePattern fails)
      · obtain ⟨present, fails⟩ := decodeNullable_eq_error (error_of_filled fails)
        exact .inside (.graph holds present) (blames_term fails)
      · exact absurd fails pass_ne_error
    · exact absurd fails (bind_ne_error require_ne_error fun _ _ same => by cases same)

/-- Bindings fail for a term that does not exist at one of their values. -/
theorem exists_binding_of_error
    (fails : Solution.bindingsOfJson levels value = .error (.model error)) :
    ∃ members ending name part below, value = .object members ending ∧
      (some name, part) ∈ members ∧ part ≠ .null ∧
      Term.ofJson below part = .error (.model error) := by
  cases levels with
  | zero => cases fails
  | succ levels =>
    cases value with
    | object members ending =>
      rcases bind_eq_error.mp fails with fails | ⟨_, opens, fails⟩
      · cases fails
      cases opens
      rcases bind_eq_error.mp fails with fails | ⟨_, _, fails⟩
      · obtain ⟨front, before, name, part, back, rfl, _, fails⟩ := exists_step_of_error fails
        rcases bind_eq_error.mp fails with fails | ⟨value?, _, fails⟩
        · obtain ⟨present, fails⟩ := decodeNullable_eq_error fails
          exact ⟨_, ending, name, part, levels, rfl,
            List.mem_append_right _ List.mem_cons_self, present, fails⟩
        · cases value? <;> cases fails
      · split at fails <;> cases fails
    | _ => cases fails

theorem blames_solution (fails : Solution.ofJson levels value = .error (.model error)) :
    Blames error .solution value := by
  cases levels with
  | zero => cases fails
  | succ levels =>
    rcases record_eq_error fails with ⟨before, key, part, holds, fails, _⟩ | ⟨_, fields, _, _, fails⟩
    · unfold Solution.readField at fails
      split at fails
      · obtain ⟨members, ending, name, binding, below, rfl, listed, present, fails⟩ :=
          exists_binding_of_error (error_of_fill fails)
        exact .inside (.binding holds listed present) (blames_term fails)
      · exact absurd fails pass_ne_error
    · exact absurd fails require_ne_error

theorem blames_solutions (fails : Solutions.ofJson levels value = .error (.model error)) :
    Blames error .solutions value := by
  cases levels with
  | zero => cases fails
  | succ levels =>
    obtain ⟨items, ending, rfl, item, member, fails⟩ := decodeList_eq_error fails
    exact .inside (.solution member) (blames_solution fails)

theorem blames_of_decode {form : Form}
    (fails : form.decode levels value = .error (.model error)) : Blames error form value := by
  cases form with
  | iri => exact blames_iri fails
  | literal => exact blames_literal fails
  | term => exact blames_term fails
  | expression => exact blames_expression fails
  | triple => exact blames_triple fails
  | triplePattern => exact blames_triplePattern fails
  | pattern => exact blames_pattern fails
  | solution => exact blames_solution fails
  | solutions => exact blames_solutions fails

/-- **A document is refused for a term that does not exist only where it holds one**, at a position
where it is read, and the error says which. -/
theorem exists_part_of_model_error {form : Form} {text : List Char}
    (fails : ofText form.decode text = .error (.model error)) :
    ∃ value sub part, (Json.read text).value = some value ∧ Part form value sub part ∧
      IllFormed sub part ∧ Explains error sub part := by
  unfold ofText at fails
  dsimp only at fails
  split at fails
  · cases fails
  · rename_i value isValue
    rcases bind_eq_error.mp fails with fails | ⟨_, _, fails⟩
    · obtain ⟨sub, part, inside, explains⟩ := blames_of_decode fails
      exact ⟨value, sub, part, isValue, inside, explains.illFormed, explains⟩
    · split at fails <;> cases fails

end QueryAlgebra.Document
