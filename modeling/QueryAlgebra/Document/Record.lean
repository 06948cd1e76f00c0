/-
**Reading records.**

A record is an object with known fields, or an array of its fields in order. Fields may stand in any
order, none twice; other members are passed over. A reader reports the first fault in the order of
the text, and every container that it enters uses up one of the levels that a document may have.
-/
import QueryAlgebra.Json.Number
import QueryAlgebra.Json.Reader
import QueryAlgebra.Pattern.Triple
import QueryAlgebra.Power

namespace QueryAlgebra

/-- Why a document is refused. -/
inductive DecodeFault
  /-- The text is no JSON or its form is not that of the document. -/
  | malformed
  /-- A term in the document does not exist. -/
  | model (error : ModelError)
  deriving DecidableEq, Repr

/-- What is read from a document. -/
abbrev Decoded (α : Type) := Except DecodeFault α

namespace Document

/-- How deep the containers of a document may be nested. -/
def greatestLevels : Nat := 127

/-- Reads a document that is the whole of a text. -/
def ofText {α : Type} (decode : (levels : Nat) → Json → Decoded α) (text : List Char) :
    Decoded α :=
  let reading := Json.read text
  match reading.value with
  | none => .error .malformed
  | some value => do
    let decoded ← decode greatestLevels value
    if reading.isDocument then .ok decoded else .error .malformed

/-! ### Values without fields -/

/-- Reads a text. -/
def decodeText : Json → Decoded String
  | .string (some text) => .ok text
  | _ => .error .malformed

/-- Reads a truth value. -/
def decodeBool : Json → Decoded Bool
  | .bool value => .ok value
  | _ => .error .malformed

/-- Reads a word of 64 bits. -/
def decodeWord : Json → Decoded Nat
  | .number numeral =>
    let digits := numeral.toList
    if digits.all Text.isDigit && Text.valueOf digits < twoTo 64 then .ok (Text.valueOf digits)
    else .error .malformed
  | _ => .error .malformed

/-- Reads a value that may be null. -/
def decodeNullable {α : Type} (decode : Json → Decoded α) : Json → Decoded (Option α)
  | .null => .ok none
  | value => some <$> decode value

/-- Reads one of several names, which may be the only key of an object with a null. -/
def decodeName : (levels : Nat) → Json → Decoded String
  | _, .string (some name) => .ok name
  | _ + 1, .object [(some name, .null)] .closed => .ok name
  | _, _ => .error .malformed

/-- Reads the items of an array. -/
def decodeItems {α : Type} (decode : Json → Decoded α) : List Json → Decoded (List α)
  | [] => .ok []
  | item :: rest => do
    let decoded ← decode item
    let others ← decodeItems decode rest
    return decoded :: others

/-- Reads an array. -/
def decodeList {α : Type} (decode : Json → Decoded α) : Json → Decoded (List α)
  | .array items ending => do
    let decoded ← decodeItems decode items
    if ending = .closed then .ok decoded else .error .malformed
  | _ => .error .malformed

/-! ### Members -/

/-- The members of a container in order, and how it ends. -/
structure Members where
  entries : List (Option String × Json)
  ending : Ending

/-- The members of a record with these fields; an array with too many items ends badly. -/
def recordMembers (fields : List String) : Json → Decoded Members
  | .object entries ending => .ok ⟨entries, ending⟩
  | .array items ending =>
    .ok ⟨(fields.map some).zip items, if items.length ≤ fields.length then ending else .cut⟩
  | _ => .error .malformed

/-- The members of an object. -/
def objectMembers : Json → Decoded Members
  | .object entries ending => .ok ⟨entries, ending⟩
  | _ => .error .malformed

/-- Reads entries one after the other. -/
def foldEntries {σ : Type} (step : σ → String → Json → Decoded σ) :
    σ → List (Option String × Json) → Decoded σ
  | state, [] => .ok state
  | _, (none, _) :: _ => .error .malformed
  | state, (some key, value) :: rest => do
    foldEntries step (← step state key value) rest

/-- Reads members one after the other, and the end of their container. -/
def Members.fold {σ : Type} (members : Members) (step : σ → String → Json → Decoded σ)
    (start : σ) : Decoded σ := do
  let state ← foldEntries step start members.entries
  if members.ending = .closed then .ok state else .error .malformed

/-- Puts what was read into a field that is not yet there. -/
def fill {α : Type} (field : Option α) (decoded : Decoded α) : Decoded (Option α) :=
  match field with
  | some _ => .error .malformed
  | none => some <$> decoded

/-- The value of a field that has to be there. -/
def require {α : Type} : Option α → Decoded α
  | some value => .ok value
  | none => .error .malformed

/-- Passes over the value of an unknown member, which is only well formed. -/
def pass {σ : Type} (state : σ) (value : Json) : Decoded σ :=
  if value.isWhole then .ok state else .error .malformed

/-- Whether a value can be held without knowing what it is for: its texts have no lone surrogate,
its numbers are in range, and it is not nested deeper than the levels allow. -/
def isReadable : (levels : Nat) → Json → Bool
  | levels + 1, .array items .closed => items.all (isReadable levels)
  | levels + 1, .object members .closed =>
    members.all fun member => member.1.isSome && isReadable levels member.2
  | _, .array .. => false
  | _, .object .. => false
  | _, .null => true
  | _, .bool _ => true
  | _, .number numeral => (Json.canonicalNumeral? numeral).isSome
  | _, .string text => text.isSome

end Document

end QueryAlgebra
