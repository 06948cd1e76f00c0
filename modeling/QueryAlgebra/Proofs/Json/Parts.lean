/-
**What stands in a document can stand alone.**

In whatever a reader has made of a text, the values that are complete have no cut container and no
faulty number (`step_isSound`, for one character). Such a value is spelled by a text, though perhaps
by another one than it was read from (`exists_spells`): so each item of a document is the value of a
document of its own (`exists_read_of_item`).
-/
import QueryAlgebra.Proofs.Json.Reading
import Mathlib.Tactic.Choose
import Mathlib.Tactic.SplitIfs

namespace QueryAlgebra.Json

/-- Whether a value can have been read to its end: every container is closed and every number is a
numeral. A text may have a lone surrogate. -/
inductive IsComplete : Json → Prop
  | null : IsComplete .null
  | bool (value : Bool) : IsComplete (.bool value)
  | number {numeral : String} (sound : (numeralParts? numeral.toList).isSome) :
    IsComplete (.number numeral)
  | string (text? : Option String) : IsComplete (.string text?)
  | array {items : List Json} (each : ∀ item ∈ items, IsComplete item) :
    IsComplete (.array items .closed)
  | object {members : List (Option String × Json)}
    (each : ∀ member ∈ members, IsComplete member.2) :
    IsComplete (.object members .closed)

/-! ### What a reader builds is complete -/

/-- Whether a token is no faulty number. -/
def Token.IsSound : Token → Prop
  | .number numeral => (numeralParts? numeral.toList).isSome
  | _ => True

theorem wordToken_isSound (word : List Char) : (wordToken word).IsSound := by
  unfold wordToken
  split_ifs with _ _ _ numeral
  · trivial
  · trivial
  · trivial
  · show (numeralParts? (String.ofList word).toList).isSome
    rw [String.toList_ofList]
    exact numeral
  · trivial

theorem isSound_of_mark? {c : Char} {token : Token} (isMark : mark? c = some token) :
    token.IsSound := by
  unfold mark? at isMark
  split_ifs at isMark <;> cases isMark <;> trivial

/-- Whether what is complete in an open container is so. -/
def OpenContainer.IsSound : OpenContainer → Prop
  | .array items => ∀ item ∈ items, item.IsComplete
  | .object members => ∀ member ∈ members, member.2.IsComplete
  | .keyed members _ => ∀ member ∈ members, member.2.IsComplete

namespace Builder

/-- Whether the values that a builder holds are complete. -/
structure IsSound (builder : Builder) : Prop where
  containers : ∀ container ∈ builder.containers, container.IsSound
  root : ∀ value, builder.root = some value → value.IsComplete

variable {builder : Builder}

theorem isSound_start : start.IsSound :=
  ⟨List.forall_mem_nil _, fun _ same => by cases same⟩

/-- What is expected next is no matter of what there is. -/
theorem IsSound.fault (sound : builder.IsSound) : builder.fault.IsSound := ⟨sound.1, sound.2⟩

theorem isSound_complete (sound : builder.IsSound) {value : Json} (complete : value.IsComplete) :
    (builder.complete value).IsSound := by
  obtain ⟨expecting, containers, root, faulty⟩ := builder
  cases containers with
  | nil => exact ⟨sound.1, fun other same => by cases same; exact complete⟩
  | cons container outer =>
    obtain ⟨inner, others⟩ := List.forall_mem_cons.mp sound.1
    cases container with
    | array items =>
      exact ⟨List.forall_mem_cons.mpr ⟨List.forall_mem_cons.mpr ⟨complete, inner⟩, others⟩, sound.2⟩
    | object members => exact sound.fault
    | keyed members key =>
      exact ⟨List.forall_mem_cons.mpr ⟨List.forall_mem_cons.mpr ⟨complete, inner⟩, others⟩, sound.2⟩

theorem isSound_enter (sound : builder.IsSound) {container : OpenContainer}
    (isSound : container.IsSound) (expecting : Expecting) :
    (builder.enter container expecting).IsSound :=
  ⟨List.forall_mem_cons.mpr ⟨isSound, sound.1⟩, sound.2⟩

theorem isSound_closeArray (sound : builder.IsSound) : builder.closeArray.IsSound := by
  unfold closeArray
  split
  · rename_i items outer isOpen
    have held := sound.1
    rw [isOpen] at held
    obtain ⟨inner, others⟩ := List.forall_mem_cons.mp held
    have outside : { builder with containers := outer }.IsSound := ⟨others, sound.2⟩
    refine isSound_complete outside (.array fun item member => ?_)
    exact inner item (List.mem_reverse.mp member)
  · exact sound.fault

theorem isSound_closeObject (sound : builder.IsSound) : builder.closeObject.IsSound := by
  unfold closeObject
  split
  · rename_i members outer isOpen
    have held := sound.1
    rw [isOpen] at held
    obtain ⟨inner, others⟩ := List.forall_mem_cons.mp held
    have outside : { builder with containers := outer }.IsSound := ⟨others, sound.2⟩
    refine isSound_complete outside (.object fun member listed => ?_)
    exact inner member (List.mem_reverse.mp listed)
  · exact sound.fault

theorem isSound_takeKey (sound : builder.IsSound) (key : Option String) :
    (builder.takeKey key).IsSound := by
  unfold takeKey
  split
  · rename_i members outer isOpen
    have held := sound.1
    rw [isOpen] at held
    obtain ⟨inner, others⟩ := List.forall_mem_cons.mp held
    exact ⟨List.forall_mem_cons.mpr ⟨inner, others⟩, sound.2⟩
  · exact sound.fault

theorem isSound_takeComma (sound : builder.IsSound) : builder.takeComma.IsSound := by
  unfold takeComma
  split
  · exact ⟨sound.1, sound.2⟩
  · exact ⟨sound.1, sound.2⟩
  · exact sound.fault

theorem isSound_takeValue (sound : builder.IsSound) {token : Token} (isSound : token.IsSound) :
    (builder.takeValue token).IsSound := by
  cases token with
  | null => exact isSound_complete sound .null
  | bool value => exact isSound_complete sound (.bool value)
  | number numeral => exact isSound_complete sound (.number isSound)
  | string text => exact isSound_complete sound (.string text)
  | openArray =>
    have empty : (OpenContainer.array []).IsSound := List.forall_mem_nil _
    exact isSound_enter sound empty _
  | openObject =>
    have empty : (OpenContainer.object []).IsSound := List.forall_mem_nil _
    exact isSound_enter sound empty _
  | _ => exact sound.fault

/-- **A token leaves complete what was complete.** -/
theorem isSound_take (sound : builder.IsSound) {token : Token} (isSound : token.IsSound) :
    (builder.take token).IsSound := by
  unfold take
  split
  · exact sound
  · split
    · exact isSound_closeArray sound
    · exact isSound_takeValue sound isSound
    · exact isSound_takeValue sound isSound
    · exact isSound_closeObject sound
    · exact isSound_takeKey sound _
    · exact isSound_takeKey sound _
    · exact ⟨sound.1, sound.2⟩
    · exact isSound_takeComma sound
    · exact isSound_closeArray sound
    · exact isSound_closeObject sound
    · exact sound.fault

end Builder

namespace Reader

theorem isSound_begin {builder : Builder} (sound : builder.IsSound) (c : Char) :
    (begin builder c).builder.IsSound := by
  unfold begin
  split
  · rename_i token isMark
    exact Builder.isSound_take sound (isSound_of_mark? isMark)
  · split_ifs <;> exact sound

/-- **A character leaves complete what was complete.** -/
theorem step_isSound {reader : Reader} (sound : reader.builder.IsSound) (c : Char) :
    (reader.step c).builder.IsSound := by
  obtain ⟨scan, builder⟩ := reader
  cases scan with
  | between => exact isSound_begin sound c
  | word letters =>
    unfold step
    dsimp only
    split_ifs
    · exact isSound_begin (Builder.isSound_take sound (wordToken_isSound _)) c
    · exact sound
  | string pieces =>
    unfold step
    dsimp only
    split_ifs
    · exact Builder.isSound_take sound trivial
    · exact sound
    · exact sound.fault
    · exact sound
  | escape pieces =>
    unfold step
    dsimp only
    split
    · exact sound
    · split_ifs
      · exact sound
      · exact sound.fault
  | hex pieces value left =>
    unfold step
    dsimp only
    split
    · exact sound.fault
    · exact sound
    · exact sound

/-- What was read at any point of a text is complete. -/
theorem foldl_isSound (text : List Char) {reader : Reader} (sound : reader.builder.IsSound) :
    (text.foldl step reader).builder.IsSound := by
  induction text generalizing reader with
  | nil => exact sound
  | cons c rest inRest => exact inRest (step_isSound sound c)

theorem finish_isSound {reader : Reader} (sound : reader.builder.IsSound) :
    reader.finish.IsSound := by
  unfold finish
  split
  · exact sound
  · exact Builder.isSound_take sound (wordToken_isSound _)
  · exact sound.fault

end Reader

/-- The value of a document is complete. -/
theorem isComplete_of_read {text : List Char} {value : Json}
    (isRead : read text = ⟨some value, true⟩) : value.IsComplete := by
  have begins : Reader.start.builder.IsSound := Builder.isSound_start
  have sound := Reader.finish_isSound (Reader.foldl_isSound text begins)
  unfold read at isRead
  obtain ⟨isValue, isDocument⟩ := Reading.mk.inj isRead
  simp only [Bool.and_eq_true, List.isEmpty_iff] at isDocument
  rw [isDocument.1.2] at isValue
  exact sound.root value isValue

/-! ### What is complete is spelled -/

/-- Every string is spelled, also one with a lone surrogate. -/
theorem exists_spellsString (string? : Option String) : ∃ text, SpellsString text string? := by
  cases string? with
  | some text => exact ⟨_, takes_printText text⟩
  | none => exact ⟨['"', '\\', 'u', 'd', '8', '0', '0', '"'], fun _ _ _ => rfl⟩

/-- **A complete value is spelled by a text.** -/
theorem exists_spells {value : Json} (complete : value.IsComplete) : ∃ text, Spells text value := by
  have noBlank : ∀ c ∈ ([] : List Char), isSpace c = true := List.forall_mem_nil _
  induction complete with
  | null => exact ⟨_, IsSpelled.null.compact⟩
  | bool value => exact ⟨_, (IsSpelled.bool value).compact⟩
  | number sound => exact ⟨_, (IsSpelled.number sound).compact⟩
  | string text? =>
    obtain ⟨text, spells⟩ := exists_spellsString text?
    exact ⟨text, spells.spells⟩
  | @array items _ inEach =>
    cases items with
    | nil => exact ⟨_, spells_no_items⟩
    | cons first rest =>
      choose! text spells using inEach
      exact ⟨_, spells_items noBlank noBlank first rest spells⟩
  | @object members _ inEach =>
    cases members with
    | nil => exact ⟨_, spells_no_members⟩
    | cons first rest =>
      choose! text spells using inEach
      choose key spellsKey using exists_spellsString
      exact ⟨_, spells_members noBlank noBlank (fun member => key member.1 ++ ':' :: text member)
        first rest fun member listed _ before awaits =>
          takes_member awaits noBlank (spellsKey member.1) (spells member listed) before⟩

/-- **Each item of a document is the value of a document of its own.** -/
theorem exists_read_of_item {text : List Char} {items : List Json}
    (isRead : read text = ⟨some (.ofItems items), true⟩) {item : Json} (member : item ∈ items) :
    ∃ content, read content = ⟨some item, true⟩ := by
  cases isComplete_of_read isRead with
  | array each =>
    obtain ⟨content, spells⟩ := exists_spells (each item member)
    exact ⟨content, read_of_spells spells⟩

end QueryAlgebra.Json
