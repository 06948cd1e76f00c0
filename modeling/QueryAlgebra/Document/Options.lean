/-
**Options and shapes in documents.**

Every field of the options may be left out. The values of extensions are held in a form of their
own: members sorted by key, the last of equal keys alone, and numbers as they are written.
-/
import QueryAlgebra.Document.Record
import QueryAlgebra.Options
import QueryAlgebra.Query.Shape

namespace QueryAlgebra

open Document

namespace Json

/-- Puts a member among members that are sorted by key, in the place of one with the same key. -/
def insertMember (key : Option String) (value : Json) :
    List (Option String × Json) → List (Option String × Json)
  | [] => [(key, value)]
  | member :: rest =>
    if member.1 = key then (key, value) :: rest
    else if key.getD "" < member.1.getD "" then (key, value) :: member :: rest
    else member :: insertMember key value rest

mutual

/-- The same value with sorted members and with numbers as they are written. -/
def canonical : Json → Json
  | .number numeral => .number ((canonicalNumeral? numeral).getD numeral)
  | .array items ending => .array (canonicalItems items) ending
  | .object members ending => .object (canonicalMembers [] members) ending
  | value => value

/-- The canonical values of items. -/
def canonicalItems : List Json → List Json
  | [] => []
  | item :: rest => item.canonical :: canonicalItems rest

/-- The canonical members, put one by one among those before them. -/
def canonicalMembers (before : List (Option String × Json)) :
    List (Option String × Json) → List (Option String × Json)
  | [] => before
  | (key, value) :: rest => canonicalMembers (insertMember key value.canonical before) rest

end

/-- Reads a value of any form. -/
def extensionOfJson (levels : Nat) (value : Json) : Decoded Json :=
  if isReadable levels value then .ok value.canonical else .error .malformed

end Json

namespace QueryShape

/-- Reads a shape. -/
def ofJson (levels : Nat) (value : Json) : Decoded QueryShape := do
  match ← decodeName levels value with
  | "solutions" => .ok solutions
  | "boolean" => .ok boolean
  | "statements" => .ok statements
  | _ => .error .malformed

/-- The document of a shape. -/
def toJson (shape : QueryShape) : Json := .ofText shape.name

end QueryShape

/-- Reads a policy. -/
def FilterErrorPolicy.ofJson (levels : Nat) (value : Json) : Decoded FilterErrorPolicy := do
  match ← decodeName levels value with
  | "exclude" => .ok exclude
  | "propagate" => .ok propagate
  | _ => .error .malformed

namespace Options

/-- The fields of options that were read. -/
structure Fields where
  maxDepth : Option Nat := none
  filterErrors : Option FilterErrorPolicy := none
  extensions : Option (OrderedMap String Json) := none

/-- Reads an extension. -/
def readExtension (levels : Nat) (extensions : OrderedMap String Json) (key : String)
    (value : Json) : Decoded (OrderedMap String Json) := do
  return extensions.put key (← Json.extensionOfJson levels value)

/-- Reads extensions. -/
def extensionsOfJson : (levels : Nat) → Json → Decoded (OrderedMap String Json)
  | 0, _ => .error .malformed
  | levels + 1, value => do
    let members ← objectMembers value
    members.fold (readExtension levels) .empty

/-- Reads a member of options. -/
def readField (levels : Nat) (fields : Fields) (key : String) (value : Json) : Decoded Fields :=
  match key with
  | "max_depth" => return { fields with maxDepth := ← fill fields.maxDepth (decodeWord value) }
  | "filter_errors" =>
    let decoded := FilterErrorPolicy.ofJson levels value
    return { fields with filterErrors := ← fill fields.filterErrors decoded }
  | "extensions" =>
    return { fields with extensions := ← fill fields.extensions (extensionsOfJson levels value) }
  | _ => pass fields value

/-- The options of the fields that were read. -/
def ofFields (fields : Fields) : Options where
  maxDepth := fields.maxDepth.getD default.maxDepth
  filterErrors := fields.filterErrors.getD default.filterErrors
  extensions := fields.extensions.getD default.extensions

/-- Reads options. -/
def ofJson : (levels : Nat) → Json → Decoded Options
  | 0, _ => .error .malformed
  | levels + 1, value => do
    let members ← recordMembers ["max_depth", "filter_errors", "extensions"] value
    return ofFields (← members.fold (readField levels) {})

/-- The document of options. -/
def toJson (options : Options) : Json :=
  .ofMembers [
    ("max_depth", .number (String.ofList (Text.digitsOf options.maxDepth))),
    ("filter_errors", .ofText options.filterErrors.name),
    ("extensions", .ofMembers options.extensions.entries)]

end Options

end QueryAlgebra
