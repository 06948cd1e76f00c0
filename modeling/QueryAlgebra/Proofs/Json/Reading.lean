/-
**Reading what was written.**

A value that was built, in which no container is cut and no text or number is faulty (`IsBuilt`), is
read back from its compact text and from its indented text (`read_print`, `read_printLines`). Both
texts put their items and members one after the other with commas between them and with blanks before
them, which is where the two proofs meet (`takes_joined`).
-/
import QueryAlgebra.Proofs.Json.Token

namespace QueryAlgebra.Json

/-- Whether a value can have been built: every container is closed, no text has a lone surrogate, and
every number is a numeral. -/
inductive IsBuilt : Json → Prop
  | null : IsBuilt .null
  | bool (value : Bool) : IsBuilt (.bool value)
  | number {numeral : String} (sound : (numeralParts? numeral.toList).isSome) :
    IsBuilt (.number numeral)
  | text (text : String) : IsBuilt (.ofText text)
  | items {items : List Json} (each : ∀ item ∈ items, IsBuilt item) : IsBuilt (.ofItems items)
  | members {members : List (String × Json)} (each : ∀ member ∈ members, IsBuilt member.2) :
    IsBuilt (.ofMembers members)

/-! ### Lists of texts -/

/-- Texts with commas between them and blanks before each. -/
def joined (gap : List Char) : List (List Char) → List Char
  | [] => []
  | [text] => gap ++ text
  | text :: rest => gap ++ text ++ ',' :: joined gap rest

/-- The compact text of a member. -/
def memberText (member : Option String × Json) : List Char :=
  printText (member.1.getD "") ++ ':' :: member.2.print

/-- The indented text of a member inside of `level` containers. -/
def memberLines (level : Nat) (member : Option String × Json) : List Char :=
  printText (member.1.getD "") ++ ':' :: ' ' :: member.2.printLines level

/-- A list of texts is written as a list is when it is written with its first text, with one after
which another follows, and when it is empty. -/
theorem eq_joined {α : Type} {written : List α → List Char} {gap : List Char}
    {text : α → List Char} (none : written [] = [])
    (last : ∀ element, written [element] = gap ++ text element)
    (more : ∀ element next rest,
      written (element :: next :: rest) = gap ++ text element ++ ',' :: written (next :: rest))
    (elements : List α) : written elements = joined gap (elements.map text) := by
  induction elements with
  | nil => exact none
  | cons element rest inRest =>
    cases rest with
    | nil => exact last element
    | cons next others =>
      rw [more, inRest]
      rfl

theorem printItems_eq (items : List Json) : printItems items = joined [] (items.map print) :=
  @eq_joined _ printItems [] print rfl (fun _ => rfl) (fun _ _ _ => rfl) items

theorem printItemLines_eq (level : Nat) (items : List Json) :
    printItemLines level items = joined (lineStart level) (items.map (printLines level)) :=
  @eq_joined _ (printItemLines level) _ _ rfl (fun _ => rfl) (fun _ _ _ => rfl) items

theorem printMembers_eq (members : List (Option String × Json)) :
    printMembers members = joined [] (members.map memberText) :=
  @eq_joined _ printMembers _ _ rfl (fun _ => rfl)
    (fun member _ _ => by simp [printMembers, memberText]) members

theorem printMemberLines_eq (level : Nat) (members : List (Option String × Json)) :
    printMemberLines level members = joined (lineStart level) (members.map (memberLines level)) :=
  @eq_joined _ (printMemberLines level) _ _ rfl
    (fun _ => by simp [printMemberLines, memberLines])
    (fun member _ _ => by simp [printMemberLines, memberLines]) members

/-! ### Builders that a value comes to -/

namespace Builder

/-- Whether a builder takes a value next. -/
structure AwaitsValue (builder : Builder) : Prop where
  sound : builder.faulty = false
  expects : builder.expecting = .value ∨ builder.expecting = .itemOrClose
  holds : ∀ members outer, builder.containers ≠ .object members :: outer

variable {builder : Builder}

theorem awaitsValue_start : start.AwaitsValue :=
  ⟨rfl, .inl rfl, fun _ _ same => by cases same⟩

/-- The token that begins a value is taken as one. -/
theorem take_value {token : Token} (awaits : builder.AwaitsValue) (opens : token ≠ .closeArray) :
    builder.take token = builder.takeValue token := by
  rcases awaits.expects with expects | expects <;> cases token <;>
    first
    | exact absurd rfl opens
    | simp only [take, awaits.sound, expects, Bool.false_eq_true, if_false]

/-- A value that is complete leaves no trace of what was expected. -/
theorem complete_expecting (awaits : builder.AwaitsValue) (expecting : Expecting) (value : Json) :
    { builder with expecting := expecting }.complete value = builder.complete value := by
  obtain ⟨_, containers, _, _⟩ := builder
  cases containers with
  | nil => rfl
  | cons container outer =>
    cases container with
    | array items => rfl
    | object members => exact absurd rfl (awaits.holds members outer)
    | keyed members key => rfl

/-! #### In an array -/

/-- The builder in an array that expects the next item, after some items, the last of them first. -/
def inItems (builder : Builder) (before : List Json) : Builder :=
  builder.enter (.array before) (if before.isEmpty then .itemOrClose else .value)

theorem inItems_awaitsValue (awaits : builder.AwaitsValue) (before : List Json) :
    (builder.inItems before).AwaitsValue := by
  refine ⟨awaits.sound, ?_, fun _ _ same => by cases same⟩
  cases before with
  | nil => exact .inr rfl
  | cons item rest => exact .inl rfl

theorem take_comma_items (awaits : builder.AwaitsValue) (item : Json) (before : List Json) :
    (builder.enter (.array (item :: before)) .nothing).take .comma =
      builder.inItems (item :: before) := by
  obtain ⟨_, _, _, faulty⟩ := builder
  obtain rfl : faulty = false := awaits.sound
  rfl

theorem take_closeArray (awaits : builder.AwaitsValue) {expecting : Expecting}
    (closes : expecting = .itemOrClose ∨ expecting = .nothing) (before : List Json) :
    (builder.enter (.array before) expecting).take .closeArray =
      builder.complete (.ofItems before.reverse) := by
  rw [← complete_expecting awaits expecting]
  obtain ⟨_, _, _, faulty⟩ := builder
  obtain rfl : faulty = false := awaits.sound
  rcases closes with rfl | rfl <;> rfl

/-! #### In an object -/

/-- The builder in an object that expects the next key, after some members, the last of them first. -/
def inMembers (builder : Builder) (before : List (Option String × Json)) : Builder :=
  builder.enter (.object before) (if before.isEmpty then .keyOrClose else .key)

theorem take_comma_members (awaits : builder.AwaitsValue) (member : Option String × Json)
    (before : List (Option String × Json)) :
    (builder.enter (.object (member :: before)) .nothing).take .comma =
      builder.inMembers (member :: before) := by
  obtain ⟨_, _, _, faulty⟩ := builder
  obtain rfl : faulty = false := awaits.sound
  rfl

theorem take_key (awaits : builder.AwaitsValue) (key? : Option String)
    (before : List (Option String × Json)) :
    (builder.inMembers before).take (.string key?) =
      builder.enter (.keyed before key?) .colon := by
  obtain ⟨_, _, _, faulty⟩ := builder
  obtain rfl : faulty = false := awaits.sound
  cases before <;> rfl

theorem take_colon (awaits : builder.AwaitsValue) (container : OpenContainer) :
    (builder.enter container .colon).take .colon = builder.enter container .value := by
  obtain ⟨_, _, _, faulty⟩ := builder
  obtain rfl : faulty = false := awaits.sound
  rfl

theorem take_closeObject (awaits : builder.AwaitsValue) {expecting : Expecting}
    (closes : expecting = .keyOrClose ∨ expecting = .nothing)
    (before : List (Option String × Json)) :
    (builder.enter (.object before) expecting).take .closeObject =
      builder.complete (.object before.reverse .closed) := by
  rw [← complete_expecting awaits expecting]
  obtain ⟨_, _, _, faulty⟩ := builder
  obtain rfl : faulty = false := awaits.sound
  rcases closes with rfl | rfl <;> rfl

end Builder

/-! ### Values -/

/-- Whether a text is read as a value wherever a value is expected. -/
def Spells (text : List Char) (value : Json) : Prop :=
  ∀ builder : Builder, builder.AwaitsValue → Takes text builder (builder.complete value)

/-- A character that is no mark and ends words is passed over where it is a blank. -/
theorem Takes.blanks {gap text : List Char} {builder after : Builder}
    (blank : ∀ c ∈ gap, isSpace c = true) (takes : Takes text builder after) :
    Takes (gap ++ text) builder after := by
  induction gap with
  | nil => exact takes
  | cons c rest inRest =>
    rw [List.forall_mem_cons] at blank
    have noMark : mark? c = none := by
      have space := blank.1
      simp only [isSpace, Bool.or_eq_true, beq_iff_eq] at space
      rcases space with ((rfl | rfl) | rfl) | rfl <;> rfl
    intro following ends
    rw [List.cons_append, List.cons_append, List.foldl_cons]
    show (List.foldl Reader.step (Reader.begin builder c) _).finish = _
    rw [Reader.begin, noMark]
    simp only [blank.1, if_true]
    exact inRest blank.2 following ends

/-- **Texts with commas between them** are read one after the other. -/
theorem takes_joined {α : Type} {gap : List Char} (blank : ∀ c ∈ gap, isSpace c = true)
    {text : α → List Char} (opened filled : List α → Builder) (first : α) (rest : List α)
    (each : ∀ element ∈ first :: rest, ∀ before,
      Takes (text element) (opened before) (filled (element :: before)))
    (next : ∀ element before,
      (filled (element :: before)).take .comma = opened (element :: before))
    (before : List α) :
    Takes (joined gap ((first :: rest).map text)) (opened before)
      (filled ((first :: rest).reverse ++ before)) := by
  induction rest generalizing first before with
  | nil => exact (each first List.mem_cons_self before).blanks blank
  | cons second others inOthers =>
    have one := (each first List.mem_cons_self before).blanks blank
    have more := inOthers second (fun element member => each element (.tail _ member))
      (first :: before)
    rw [← next] at more
    have comma : mark? ',' = some .comma := rfl
    rw [List.reverse_cons, List.append_assoc]
    exact one.then_mark comma more

/-- A mark after blanks closes what stands before it. -/
theorem Takes.then_close {text close : List Char} {builder middle : Builder} {c : Char}
    {token : Token} (takes : Takes text builder middle) (blank : ∀ c ∈ close, isSpace c = true)
    (isMark : mark? c = some token) :
    Takes (text ++ (close ++ [c])) builder (middle.take token) := by
  refine takes.append ((Takes.nil _).mark isMark |>.blanks blank) fun following _ => ?_
  intro first member
  cases close with
  | nil =>
    cases member
    rw [endsWord, isMark, Option.isSome_some, Bool.or_true]
  | cons space spaces =>
    cases member
    rw [endsWord, blank _ List.mem_cons_self, Bool.true_or, Bool.true_or]

/-- **A list of items** between brackets is an array. -/
theorem spells_items {gap close : List Char} (blank : ∀ c ∈ gap, isSpace c = true)
    (closeBlank : ∀ c ∈ close, isSpace c = true) {text : Json → List Char} (first : Json)
    (rest : List Json) (each : ∀ item ∈ first :: rest, Spells (text item) item) :
    Spells ('[' :: (joined gap ((first :: rest).map text) ++ (close ++ [']'])))
      (.ofItems (first :: rest)) := by
  intro builder awaits
  have opens : mark? '[' = some .openArray := rfl
  have closes : mark? ']' = some .closeArray := rfl
  have begun : builder.take .openArray = builder.inItems [] :=
    Builder.take_value awaits (by decide)
  have items := takes_joined blank builder.inItems
    (fun before => builder.enter (.array before) .nothing) first rest
    (fun item member before => each item member _ (Builder.inItems_awaitsValue awaits before))
    (Builder.take_comma_items awaits) []
  have whole := items.then_close closeBlank closes
  rw [List.append_nil, Builder.take_closeArray awaits (.inr rfl), List.reverse_reverse,
    ← begun] at whole
  exact whole.mark opens

theorem spells_no_items : Spells ['[', ']'] (.ofItems []) := by
  intro builder awaits
  have opens : mark? '[' = some .openArray := rfl
  have closes : mark? ']' = some .closeArray := rfl
  have begun : builder.take .openArray = builder.inItems [] :=
    Builder.take_value awaits (by decide)
  refine Takes.mark opens (Takes.mark closes ?_)
  rw [begun]
  show Takes [] ((builder.enter (.array []) .itemOrClose).take .closeArray) _
  rw [Builder.take_closeArray awaits (.inl rfl)]
  exact Takes.nil _

/-- Whether a text is read as a string wherever the reader stands between tokens. -/
def SpellsString (text : List Char) (string? : Option String) : Prop :=
  ∀ builder : Builder, Takes text builder (builder.take (.string string?))

/-- A member is a string, a colon and a value. -/
theorem takes_member {builder : Builder} (awaits : builder.AwaitsValue) {gap key text : List Char}
    (blank : ∀ c ∈ gap, isSpace c = true) {member : Option String × Json}
    (spellsKey : SpellsString key member.1) (spells : Spells text member.2)
    (before : List (Option String × Json)) :
    Takes (key ++ ':' :: (gap ++ text)) (builder.inMembers before)
      (builder.enter (.object (member :: before)) .nothing) := by
  have colon : mark? ':' = some .colon := rfl
  have takesKey := spellsKey (builder.inMembers before)
  rw [Builder.take_key awaits] at takesKey
  refine takesKey.then_mark colon ?_
  rw [Builder.take_colon awaits]
  have awaitsHere : (builder.enter (.keyed before member.1) .value).AwaitsValue :=
    ⟨awaits.sound, .inl rfl, fun _ _ same => by cases same⟩
  exact (spells _ awaitsHere).blanks blank

/-- **A list of members** between braces is an object. -/
theorem spells_members {gap close : List Char} (blank : ∀ c ∈ gap, isSpace c = true)
    (closeBlank : ∀ c ∈ close, isSpace c = true) (text : Option String × Json → List Char)
    (first : Option String × Json) (rest : List (Option String × Json))
    (each : ∀ member ∈ first :: rest, ∀ (builder : Builder) (before : List (Option String × Json)),
      builder.AwaitsValue → Takes (text member) (builder.inMembers before)
        (builder.enter (.object (member :: before)) .nothing)) :
    Spells ('\x7b' :: (joined gap ((first :: rest).map text) ++ (close ++ ['\x7d'])))
      (.object (first :: rest) .closed) := by
  intro builder awaits
  have opens : mark? '\x7b' = some .openObject := rfl
  have closes : mark? '\x7d' = some .closeObject := rfl
  have begun : builder.take .openObject = builder.inMembers [] :=
    Builder.take_value awaits (by decide)
  have members := takes_joined blank builder.inMembers
    (fun before => builder.enter (.object before) .nothing) first rest
    (fun member listed before => each member listed builder before awaits)
    (Builder.take_comma_members awaits) []
  have whole := members.then_close closeBlank closes
  rw [List.append_nil, Builder.take_closeObject awaits (.inr rfl), List.reverse_reverse,
    ← begun] at whole
  exact whole.mark opens

theorem spells_no_members : Spells ['\x7b', '\x7d'] (.object [] .closed) := by
  intro builder awaits
  have opens : mark? '\x7b' = some .openObject := rfl
  have closes : mark? '\x7d' = some .closeObject := rfl
  have begun : builder.take .openObject = builder.inMembers [] :=
    Builder.take_value awaits (by decide)
  refine Takes.mark opens (Takes.mark closes ?_)
  rw [begun]
  show Takes [] ((builder.enter (.object []) .keyOrClose).take .closeObject) _
  rw [Builder.take_closeObject awaits (.inl rfl)]
  exact Takes.nil _

/-- A word is a value where its token is. -/
theorem spells_word {word : List Char} {token : Token} {value : Json} (begun : word ≠ [])
    (goesOn : ∀ c ∈ word, endsWord c = false) (isToken : wordToken word = token)
    (opens : token ≠ .closeArray)
    (completes : ∀ builder : Builder, builder.takeValue token = builder.complete value) :
    Spells word value := by
  intro builder awaits
  cases word with
  | nil => exact absurd rfl begun
  | cons c letters =>
    have takes := @Takes.word builder letters c goesOn
    rw [isToken, Builder.take_value awaits opens, completes] at takes
    exact takes

theorem goesOn_of_all {word : List Char} (goesOn : (word.all fun c => !endsWord c) = true) :
    ∀ c ∈ word, endsWord c = false := by
  simpa using goesOn

/-- A string is a value. -/
theorem SpellsString.spells {text : List Char} {string? : Option String}
    (spells : SpellsString text string?) : Spells text (.string string?) := by
  intro builder awaits
  have takes := spells builder
  rw [Builder.take_value awaits (by simp)] at takes
  exact takes

theorem spells_text (text : String) : Spells (printText text) (.ofText text) :=
  SpellsString.spells (takes_printText text)

theorem isSpace_lineStart (level : Nat) : ∀ c ∈ lineStart level, isSpace c = true := by
  intro c member
  rcases List.mem_cons.mp member with rfl | member
  · rfl
  · rw [List.eq_of_mem_replicate member]
    rfl

/-- Whether a value is read from its compact text and from its indented one. -/
structure IsSpelled (value : Json) : Prop where
  compact : Spells value.print value
  indented : ∀ level, Spells (value.printLines level) value

namespace IsSpelled

theorem null : IsSpelled .null := by
  have spells : Spells ['n', 'u', 'l', 'l'] .null :=
    spells_word (by decide) (goesOn_of_all (by decide)) rfl (by decide) fun _ => rfl
  exact ⟨spells, fun _ => spells⟩

theorem bool (value : Bool) : IsSpelled (.bool value) := by
  have spells : Spells (printScalar (.bool value)) (.bool value) := by
    cases value with
    | true =>
      exact spells_word (by decide) (goesOn_of_all (by decide)) rfl (by decide) fun _ => rfl
    | false =>
      exact spells_word (by decide) (goesOn_of_all (by decide)) rfl (by decide) fun _ => rfl
  exact ⟨spells, fun _ => spells⟩

theorem number {numeral : String} (sound : (numeralParts? numeral.toList).isSome) :
    IsSpelled (.number numeral) := by
  have spells : Spells numeral.toList (.number numeral) := by
    refine spells_word ?_ ?_ (wordToken_of_numeral sound) (by simp) fun builder => ?_
    · intro empty
      rw [empty] at sound
      cases sound
    · exact fun c member => endsWord_of_isNumeralChar (isNumeralChar_of_mem_numeral sound member)
    · rw [String.ofList_toList]
      rfl
  exact ⟨spells, fun _ => spells⟩

theorem text (text : String) : IsSpelled (.ofText text) :=
  ⟨spells_text text, fun _ => spells_text text⟩

theorem items {items : List Json} (each : ∀ item ∈ items, item.IsSpelled) :
    IsSpelled (.ofItems items) := by
  have noBlank : ∀ c ∈ ([] : List Char), isSpace c = true := List.forall_mem_nil _
  cases items with
  | nil => exact ⟨spells_no_items, fun _ => spells_no_items⟩
  | cons first rest =>
    constructor
    · have spells := spells_items noBlank noBlank first rest fun item member =>
        (each item member).compact
      rw [← printItems_eq] at spells
      exact spells
    · intro level
      have spells := spells_items (isSpace_lineStart (level + 1)) (isSpace_lineStart level) first
        rest fun item member => (each item member).indented (level + 1)
      rw [← printItemLines_eq, ← List.append_assoc] at spells
      exact spells

theorem members {members : List (String × Json)} (each : ∀ member ∈ members, member.2.IsSpelled) :
    IsSpelled (.ofMembers members) := by
  have noBlank : ∀ c ∈ ([] : List Char), isSpace c = true := List.forall_mem_nil _
  have oneBlank : ∀ c ∈ [' '], isSpace c = true := List.forall_mem_singleton.mpr rfl
  have spelled : ∀ member ∈ members.map fun member => (some member.1, member.2),
      SpellsString (printText (member.1.getD "")) member.1 ∧ member.2.IsSpelled :=
    List.forall_mem_map.mpr fun member listed => ⟨takes_printText member.1, each member listed⟩
  rw [ofMembers]
  generalize (members.map fun member => (some member.1, member.2)) = entries at spelled ⊢
  cases entries with
  | nil => exact ⟨spells_no_members, fun _ => spells_no_members⟩
  | cons first rest =>
    constructor
    · have spells := spells_members noBlank noBlank memberText first rest
        fun member listed _ before awaits => takes_member awaits noBlank
          (spelled member listed).1 (spelled member listed).2.compact before
      rw [← printMembers_eq] at spells
      exact spells
    · intro level
      have spells := spells_members (isSpace_lineStart (level + 1)) (isSpace_lineStart level)
        (memberLines (level + 1)) first rest fun member listed _ before awaits =>
          takes_member awaits oneBlank (spelled member listed).1
            ((spelled member listed).2.indented (level + 1)) before
      rw [← printMemberLines_eq, ← List.append_assoc] at spells
      exact spells

end IsSpelled

/-- **A value that was built is read from its compact text and from its indented one.** -/
theorem isSpelled_of_isBuilt {value : Json} (built : value.IsBuilt) : value.IsSpelled := by
  induction built with
  | null => exact .null
  | bool value => exact .bool value
  | number sound => exact .number sound
  | text text => exact .text text
  | items _ inEach => exact .items inEach
  | members _ inEach => exact .members inEach

/-! ### Whole texts -/

/-- A text that is read as a value where one is expected is a document of the value. -/
theorem read_of_spells {text : List Char} {value : Json} (spells : Spells text value) :
    read text = ⟨some value, true⟩ := by
  have takes := spells .start Builder.awaitsValue_start [] fun _ member => by cases member
  rw [List.append_nil] at takes
  unfold read Reader.start
  rw [takes]
  rfl

/-- **The compact text of a value is a document of it.** -/
theorem read_print {value : Json} (built : value.IsBuilt) : read value.print = ⟨some value, true⟩ :=
  read_of_spells (isSpelled_of_isBuilt built).compact

/-- **The indented text of a value is a document of it.** -/
theorem read_printLines {value : Json} (built : value.IsBuilt) (level : Nat) :
    read (value.printLines level) = ⟨some value, true⟩ :=
  read_of_spells ((isSpelled_of_isBuilt built).indented level)

end QueryAlgebra.Json
