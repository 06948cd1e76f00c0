/-
**What the readers of records do.**

A reader goes through the members of a container one by one, and whatever each step keeps holds at
the end (`foldEntries_keeps`). The members of a name fill one field (`Fills`): at the end the field
holds what a member of its name is read as and nothing else (`Fills.get_of_mem`,
`Fills.exists_mem_of_get`). A list is read item by item (`decodeList_eq_ok`).
-/
import QueryAlgebra.Document.Record
import QueryAlgebra.Proofs.Json.Reading
import QueryAlgebra.Proofs.Sequence

namespace QueryAlgebra.Document

/-! ### Values without fields -/

theorem decodeText_eq_ok {value : Json} {text : String} :
    decodeText value = .ok text ↔ value = .ofText text := by
  constructor
  · intro succeeds
    unfold decodeText at succeeds
    split at succeeds
    · cases succeeds
      rfl
    · cases succeeds
  · rintro rfl
    rfl

/-- A value names something: it is the name, or an object with the name as its only key and a null. -/
inductive Names (name : String) : Json → Prop
  | text : Names name (.ofText name)
  | key : Names name (.object [(some name, .null)] .closed)

theorem names_of_decodeName {levels : Nat} {value : Json} {name : String}
    (succeeds : decodeName levels value = .ok name) : Names name value := by
  unfold decodeName at succeeds
  split at succeeds
  · cases succeeds
    exact .text
  · cases succeeds
    exact .key
  · cases succeeds

theorem Names.unique {value : Json} {name other : String} (names : Names name value)
    (namesOther : Names other value) : name = other := by
  cases names <;> cases namesOther <;> rfl

/-- A null is read as nothing, and anything else as a value. -/
theorem decodeNullable_eq_ok {α : Type} {decode : Json → Decoded α} {value : Json}
    {result : Option α} : decodeNullable decode value = .ok result ↔
      value = .null ∧ result = none ∨
        value ≠ .null ∧ ∃ decoded, decode value = .ok decoded ∧ result = some decoded := by
  by_cases null : value = .null
  · subst null
    show Except.ok none = Except.ok result ↔ _
    simp [eq_comm]
  · have read : decodeNullable decode value = some <$> decode value := by
      cases value with
      | null => exact absurd rfl null
      | _ => rfl
    rw [read, map_eq_ok]
    simp only [null, false_and, false_or, ne_eq, not_false_eq_true, true_and, eq_comm]

/-! ### Fields -/

section Fields

variable {α β σ : Type} {field : Option α} {decoded : Decoded α}

/-- A field is filled once, with what was read. -/
theorem fill_eq_ok {filled : Option α} :
    fill field decoded = .ok filled ↔ field = none ∧ ∃ value, decoded = .ok value ∧
      filled = some value := by
  cases field with
  | some value =>
    constructor
    · exact fun same => by cases same
    · rintro ⟨same, _⟩
      cases same
  | none =>
    cases decoded with
    | error fault =>
      constructor
      · exact fun same => by cases same
      · rintro ⟨_, value, same, _⟩
        cases same
    | ok value =>
      constructor
      · intro same
        cases same
        exact ⟨rfl, value, rfl, rfl⟩
      · rintro ⟨_, _, same, rfl⟩
        cases same
        rfl

theorem require_eq_ok {value : α} : require field = .ok value ↔ field = some value := by
  cases field with
  | none => constructor <;> exact fun same => by cases same
  | some other => rw [require, Except.ok.injEq, Option.some.injEq]

theorem pass_eq_ok {state after : σ} {value : Json} (passed : pass state value = .ok after) :
    after = state := by
  unfold pass at passed
  split at passed
  · cases passed
    rfl
  · cases passed

variable {update : Option α → σ} {after : σ}

/-- A step fills a field that is not yet there with what was read. -/
theorem taken_of_read {value : α} (empty : field = none) (isRead : decoded = .ok value) :
    (do return update (← fill field decoded)) = @Except.ok DecodeFault σ (update (some value)) :=
  bind_eq_ok.mpr ⟨_, fill_eq_ok.mpr ⟨empty, value, isRead, rfl⟩, rfl⟩

/-- A step that fills a field leaves in it what was read. -/
theorem get_of_filled {get : σ → Option α}
    (taken : (do return update (← fill field decoded)) = Except.ok after)
    (same : ∀ field, get (update field) = field) :
    field = none ∧ ∃ value, decoded = .ok value ∧ get after = some value := by
  obtain ⟨filled, fills, updated⟩ := bind_eq_ok.mp taken
  obtain ⟨empty, value, isRead, rfl⟩ := fill_eq_ok.mp fills
  cases updated
  exact ⟨empty, value, isRead, same _⟩

/-- A step that fills a field leaves the others as they are. -/
theorem get_of_filled_other {get : σ → β} {kept : β}
    (taken : (do return update (← fill field decoded)) = Except.ok after)
    (same : ∀ field, get (update field) = kept) : get after = kept := by
  obtain ⟨_, _, updated⟩ := bind_eq_ok.mp taken
  cases updated
  exact same _

end Fields

/-! ### Members -/

section Members

variable {σ α : Type} {step : σ → String → Json → Decoded σ} {start result : σ}
  {entries : List (Option String × Json)}

/-- The members are read when the first is and the others are after it. -/
theorem foldEntries_cons_eq_ok {key? : Option String} {value : Json} :
    foldEntries step start ((key?, value) :: entries) = .ok result ↔
      ∃ key after, key? = some key ∧ step start key value = .ok after ∧
        foldEntries step after entries = .ok result := by
  cases key? with
  | none =>
    constructor
    · exact fun same => by cases same
    · rintro ⟨key, after, same, _⟩
      cases same
  | some key =>
    rw [foldEntries, bind_eq_ok]
    constructor
    · exact fun ⟨after, taken, succeeds⟩ => ⟨key, after, rfl, taken, succeeds⟩
    · rintro ⟨_, after, same, taken, succeeds⟩
      cases same
      exact ⟨after, taken, succeeds⟩

/-- What every step keeps holds at the end. -/
theorem foldEntries_keeps {holds : σ → Prop} (begins : holds start)
    (keeps : ∀ before key value after, holds before → step before key value = .ok after →
      holds after)
    (succeeds : foldEntries step start entries = .ok result) : holds result := by
  induction entries generalizing start with
  | nil =>
    cases succeeds
    exact begins
  | cons entry rest inRest =>
    obtain ⟨key, after, _, taken, goesOn⟩ := foldEntries_cons_eq_ok.mp succeeds
    exact inRest (keeps start key entry.2 after begins taken) goesOn

/-- What a member brings about and every step keeps holds at the end. -/
theorem foldEntries_brings {holds : σ → Prop} {key : String} {value : Json}
    (brings : ∀ before after, step before key value = .ok after → holds after)
    (keeps : ∀ before key value after, holds before → step before key value = .ok after →
      holds after)
    (succeeds : foldEntries step start entries = .ok result) (listed : (some key, value) ∈ entries) :
    holds result := by
  induction entries generalizing start with
  | nil => cases listed
  | cons entry rest inRest =>
    obtain ⟨first, after, isFirst, taken, goesOn⟩ := foldEntries_cons_eq_ok.mp succeeds
    rcases List.mem_cons.mp listed with same | listed
    · cases same
      cases isFirst
      exact foldEntries_keeps (brings start after taken) keeps goesOn
    · exact inRest goesOn listed

/-- What holds at the end and did not at the start was brought about by one of the members. -/
theorem exists_step_of_holds {holds : σ → Prop} (begins : ¬holds start) (ends : holds result)
    (succeeds : foldEntries step start entries = .ok result) :
    ∃ before key value after, (some key, value) ∈ entries ∧ ¬holds before ∧
      step before key value = .ok after ∧ holds after := by
  induction entries generalizing start with
  | nil =>
    cases succeeds
    exact absurd ends begins
  | cons entry rest inRest =>
    obtain ⟨key?, value⟩ := entry
    obtain ⟨key, after, rfl, taken, goesOn⟩ := foldEntries_cons_eq_ok.mp succeeds
    by_cases now : holds after
    · exact ⟨start, key, value, after, List.mem_cons_self, begins, taken, now⟩
    · obtain ⟨before, other, part, later, listed, change⟩ := inRest now goesOn
      exact ⟨before, other, part, later, .tail _ listed, change⟩

/-- Every member is taken by a step. -/
theorem foldEntries_takes {key : String} {value : Json}
    (succeeds : foldEntries step start entries = .ok result) (listed : (some key, value) ∈ entries) :
    ∃ before after, step before key value = .ok after :=
  @foldEntries_brings _ step _ _ _ (fun _ => ∃ before after, step before key value = .ok after) _ _
    (fun before after taken => ⟨before, after, taken⟩) (fun _ _ _ _ known _ => known) succeeds listed

/-- A field of a record: the members of a name fill it with what they are read as, and no other
member changes it. -/
structure Fills (step : σ → String → Json → Decoded σ) (name : String) (get : σ → Option α)
    (decode : Json → Decoded α) : Prop where
  fills : ∀ {before value after}, step before name value = .ok after →
    get before = none ∧ ∃ decoded, decode value = .ok decoded ∧ get after = some decoded
  others : ∀ {before key value after}, key ≠ name → step before key value = .ok after →
    get after = get before

namespace Fills

variable {name : String} {get : σ → Option α} {decode : Json → Decoded α}

/-- A field that is filled keeps what it holds. -/
theorem keeps (field : Fills step name get decode) {before after : σ} {key : String} {value : Json}
    {decoded : α} (filled : get before = some decoded) (taken : step before key value = .ok after) :
    get after = some decoded := by
  by_cases same : key = name
  · subst same
    rw [(field.fills taken).1] at filled
    cases filled
  · rw [field.others same taken, filled]

/-- What a member of the name is read as is in the field at the end. -/
theorem get_of_mem (field : Fills step name get decode)
    (succeeds : foldEntries step start entries = .ok result) {part : Json}
    (listed : (some name, part) ∈ entries) :
    ∃ decoded, decode part = .ok decoded ∧ get result = some decoded := by
  refine @foldEntries_brings _ _ _ _ _
    (fun state => ∃ decoded, decode part = .ok decoded ∧ get state = some decoded) _ _ ?_ ?_
    succeeds listed
  · exact fun before after taken => (field.fills taken).2
  · rintro before key value after ⟨decoded, isRead, filled⟩ taken
    exact ⟨decoded, isRead, field.keeps filled taken⟩

/-- What is in the field at the end was read from a member of the name. -/
theorem exists_mem_of_get (field : Fills step name get decode)
    (succeeds : foldEntries step start entries = .ok result) (empty : get start = none)
    {decoded : α} (filled : get result = some decoded) :
    ∃ part, (some name, part) ∈ entries ∧ decode part = .ok decoded := by
  -- the member that is looked for is the one with which the field comes to hold its value
  have begins : ¬get start = some decoded := by
    rw [empty]
    exact fun same => by cases same
  obtain ⟨before, key, part, after, listed, notYet, taken, now⟩ :=
    @exists_step_of_holds _ step _ _ _ (fun state => get state = some decoded) begins filled succeeds
  by_cases same : key = name
  · subst same
    obtain ⟨_, read, isRead, filledNow⟩ := field.fills taken
    cases filledNow.symm.trans now
    exact ⟨part, listed, isRead⟩
  · exact absurd ((field.others same taken).symm.trans now) notYet

end Fills

theorem fold_eq_ok {members : Members} : members.fold step start = .ok result ↔
    foldEntries step start members.entries = .ok result ∧ members.ending = .closed := by
  unfold Members.fold
  rw [bind_eq_ok]
  by_cases closed : members.ending = .closed
  · simp [closed]
  · simp [closed]

/-- A value stands at a field of a record: as a member of its name, or at its place. -/
inductive Holds (fields : List String) (name : String) (part : Json) : Json → Prop
  | member {members : List (Option String × Json)} {ending : Ending}
    (listed : (some name, part) ∈ members) : Holds fields name part (.object members ending)
  | place {items : List Json} {ending : Ending} {number : Nat} (named : fields[number]? = some name)
    (stands : items[number]? = some part) : Holds fields name part (.array items ending)

/-- What was read at a field of a record: it was read from some value, and whatever stands at the
field is read as it. -/
structure ReadAt (decode : Json → Decoded α) (fields : List String) (name : String) (value : Json)
    (decoded : α) : Prop where
  source : ∃ part, decode part = .ok decoded
  every : ∀ {part}, Holds fields name part value → decode part = .ok decoded

/-- What was read at a field of a record that may be left out or null. -/
structure ReadAtOptional (decode : Json → Decoded α) (fields : List String) (name : String)
    (value : Json) (decoded? : Option α) : Prop where
  source : ∀ {decoded}, decoded? = some decoded → ∃ part, decode part = .ok decoded
  every : ∀ {part}, Holds fields name part value → decodeNullable decode part = .ok decoded?

/-- A record is read when its members are and when what was read is accepted. -/
theorem record_eq_ok {fields : List String} {value : Json} {finish : σ → Decoded α} {decoded : α} :
    (do
      let members ← recordMembers fields value
      finish (← members.fold step start)) = .ok decoded ↔
      ∃ members state, recordMembers fields value = .ok members ∧ members.ending = .closed ∧
        foldEntries step start members.entries = .ok state ∧ finish state = .ok decoded := by
  simp only [bind_eq_ok, fold_eq_ok]
  constructor
  · exact fun ⟨members, opens, state, ⟨succeeds, closed⟩, accepted⟩ =>
      ⟨members, state, opens, closed, succeeds, accepted⟩
  · exact fun ⟨members, state, opens, closed, succeeds, accepted⟩ =>
      ⟨members, opens, state, ⟨succeeds, closed⟩, accepted⟩

/-- What stands at a field is among the members. -/
theorem mem_entries_of_holds {fields : List String} {name : String} {part value : Json}
    {members : Members} (opens : recordMembers fields value = .ok members)
    (holds : Holds fields name part value) : (some name, part) ∈ members.entries := by
  cases holds with
  | member listed =>
    cases opens
    exact listed
  | @place items ending number named stands =>
    cases opens
    have named : (fields.map some)[number]? = some (some name) := by
      rw [List.getElem?_map, named]
      rfl
    exact List.mem_of_getElem? (List.getElem?_zip_eq_some.mpr ⟨named, stands⟩)

namespace Fills

variable {fields : List String} {name : String} {value : Json} {members : Members}

/-- What is in a field that has to be there was read at it. -/
theorem readAt {get : σ → Option α} {decode : Json → Decoded α} {decoded : α}
    (field : Fills step name get decode) (opens : recordMembers fields value = .ok members)
    (succeeds : foldEntries step start members.entries = .ok result) (empty : get start = none)
    (filled : get result = some decoded) : ReadAt decode fields name value decoded := by
  refine ⟨?_, fun holds => ?_⟩
  · obtain ⟨part, _, isPart⟩ := field.exists_mem_of_get succeeds empty filled
    exact ⟨part, isPart⟩
  · obtain ⟨other, isPart, same⟩ := field.get_of_mem succeeds (mem_entries_of_holds opens holds)
    rw [filled] at same
    cases same
    exact isPart

/-- What is in a field that may be left out was read at it. -/
theorem readAtOptional {get : σ → Option (Option α)} {decode : Json → Decoded α}
    (field : Fills step name get (decodeNullable decode))
    (opens : recordMembers fields value = .ok members)
    (succeeds : foldEntries step start members.entries = .ok result) (empty : get start = none) :
    ReadAtOptional decode fields name value (get result).join := by
  refine ⟨fun filled => ?_, fun holds => ?_⟩
  · obtain ⟨part, _, isPart⟩ :=
      field.exists_mem_of_get succeeds empty (Option.join_eq_some_iff.mp filled)
    obtain ⟨_, same⟩ | ⟨_, other, isPart, same⟩ := decodeNullable_eq_ok.mp isPart
    · cases same
    · cases same
      exact ⟨part, isPart⟩
  · obtain ⟨other, isPart, same⟩ := field.get_of_mem succeeds (mem_entries_of_holds opens holds)
    rw [same]
    exact isPart

end Fills

end Members

/-! ### Lists -/

section Lists

variable {α : Type} {decode : Json → Decoded α} {items : List Json} {values : List α}

/-- Every value of a list was read from an item. -/
theorem exists_item_of_mem (succeeds : decodeItems decode items = .ok values) {value : α}
    (member : value ∈ values) : ∃ item ∈ items, decode item = .ok value := by
  induction items generalizing values with
  | nil =>
    cases succeeds
    cases member
  | cons item rest inRest =>
    obtain ⟨first, isFirst, succeeds⟩ := bind_eq_ok.mp succeeds
    obtain ⟨others, areOthers, same⟩ := bind_eq_ok.mp succeeds
    cases same
    rcases List.mem_cons.mp member with rfl | member
    · exact ⟨item, List.mem_cons_self, isFirst⟩
    · obtain ⟨source, inItems, isRead⟩ := inRest areOthers member
      exact ⟨source, .tail _ inItems, isRead⟩

/-- Every item of a list is read. -/
theorem ok_of_mem_items (succeeds : decodeItems decode items = .ok values) {item : Json}
    (member : item ∈ items) : ∃ value, decode item = .ok value := by
  induction items generalizing values with
  | nil => cases member
  | cons first rest inRest =>
    obtain ⟨value, isRead, succeeds⟩ := bind_eq_ok.mp succeeds
    obtain ⟨others, areOthers, _⟩ := bind_eq_ok.mp succeeds
    rcases List.mem_cons.mp member with rfl | member
    · exact ⟨value, isRead⟩
    · exact inRest areOthers member

theorem decodeList_eq_ok {value : Json} : decodeList decode value = .ok values ↔
    ∃ items, value = .ofItems items ∧ decodeItems decode items = .ok values := by
  constructor
  · intro succeeds
    cases value with
    | array items ending =>
      obtain ⟨decoded, isRead, closed⟩ := bind_eq_ok.mp succeeds
      by_cases ends : ending = .closed
      · rw [if_pos ends] at closed
        cases closed
        exact ⟨items, by rw [ends]; rfl, isRead⟩
      · rw [if_neg ends] at closed
        cases closed
    | _ => cases succeeds
  · rintro ⟨items, rfl, isRead⟩
    exact bind_eq_ok.mpr ⟨values, isRead, rfl⟩

/-- A list that was written item by item is read item by item, each as it comes back. -/
theorem decodeList_ofItems {encode : α → Json} {change : α → α}
    (each : ∀ value ∈ values, decode (encode value) = .ok (change value)) :
    decodeList decode (.ofItems (values.map encode)) = .ok (values.map change) := by
  refine decodeList_eq_ok.mpr ⟨_, rfl, ?_⟩
  induction values with
  | nil => rfl
  | cons value rest inRest =>
    rw [List.forall_mem_cons] at each
    exact bind_eq_ok.mpr ⟨_, each.1, bind_eq_ok.mpr ⟨_, inRest each.2, rfl⟩⟩

/-- A list is read as it was written where each of its items is. -/
theorem decodeList_ofItems_self {encode : α → Json}
    (each : ∀ value ∈ values, decode (encode value) = .ok value) :
    decodeList decode (.ofItems (values.map encode)) = .ok values := by
  rw [@decodeList_ofItems _ decode values encode id each, List.map_id]

end Lists

/-! ### Texts -/

section Texts

variable {α : Type} {decode : Nat → Json → Decoded α}

/-- What is read from a text is read from the value in it, and nothing else is in the text. -/
theorem ofText_eq_ok {text : List Char} {decoded : α} : ofText decode text = .ok decoded ↔
    ∃ value, Json.read text = ⟨some value, true⟩ ∧ decode greatestLevels value = .ok decoded := by
  unfold ofText
  cases Json.read text with
  | mk value isDocument =>
    cases value with
    | none => simp
    | some value =>
      simp only [bind_eq_ok]
      cases isDocument <;> simp

/-- A value that was built is read from its compact text as it is. -/
theorem ofText_print {value : Json} (built : value.IsBuilt) :
    ofText decode value.print = decode greatestLevels value := by
  unfold ofText
  rw [Json.read_print built]
  exact bind_pure _

/-- A value that was built is read from its indented text as it is. -/
theorem ofText_printLines {value : Json} (built : value.IsBuilt) (level : Nat) :
    ofText decode (value.printLines level) = decode greatestLevels value := by
  unfold ofText
  rw [Json.read_printLines built]
  exact bind_pure _

end Texts

end QueryAlgebra.Document
