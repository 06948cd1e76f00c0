/-
**JSON values.**

A value is read from a text that may break off or go wrong anywhere. What stood before the fault is
kept: a container that was not closed is `cut`, and the values that were complete are in it. So a
reader of documents can report the first thing that is wrong in the order of the text. A value that
was built rather than read has no cut container and no text with a lone surrogate.
-/
namespace QueryAlgebra

/-- How a container ends. -/
inductive Ending
  | closed
  | cut
  deriving DecidableEq, Repr, Inhabited

/-- A JSON value as it stands in a text; a number is held as its numeral. A text is missing where it
holds a lone surrogate. -/
inductive Json
  | null
  | bool (value : Bool)
  | number (numeral : String)
  | string (text : Option String)
  | array (items : List Json) (ending : Ending)
  | object (members : List (Option String × Json)) (ending : Ending)
  deriving Repr, Inhabited

namespace Json

/-- The value of a text. -/
def ofText (text : String) : Json := string (some text)

/-- The value of a sequence. -/
def ofItems (items : List Json) : Json := array items .closed

/-- The value of named members. -/
def ofMembers (members : List (String × Json)) : Json :=
  object (members.map fun member => (some member.1, member.2)) .closed

mutual

/-- Whether no container in a value is cut. -/
def isWhole : Json → Bool
  | array items ending => ending == .closed && areWhole items
  | object members ending => ending == .closed && membersAreWhole members
  | _ => true

/-- Whether no container in a list of values is cut. -/
def areWhole : List Json → Bool
  | [] => true
  | item :: rest => item.isWhole && areWhole rest

/-- Whether no container in the values of members is cut. -/
def membersAreWhole : List (Option String × Json) → Bool
  | [] => true
  | (_, value) :: rest => value.isWhole && membersAreWhole rest

end

end Json

end QueryAlgebra
