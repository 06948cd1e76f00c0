/-
**Writing JSON.**

The compact text has no spaces. The indented text puts every item and every member on a line of its
own, two spaces further in than its container. Strings escape the quotation mark, the backslash and
the control characters, and nothing else.
-/
import QueryAlgebra.Json.Basic
import QueryAlgebra.Text.Quoted

namespace QueryAlgebra.Json

/-- A character as it stands in a string. -/
def escapeChar (c : Char) : List Char :=
  if c = '"' then ['\\', '"']
  else if c = '\\' then ['\\', '\\']
  else if c = '\x08' then ['\\', 'b']
  else if c = '\t' then ['\\', 't']
  else if c = '\n' then ['\\', 'n']
  else if c = '\x0c' then ['\\', 'f']
  else if c = '\r' then ['\\', 'r']
  else if c < ' ' then
    ['\\', 'u', '0', '0', Text.hexChar (c.toNat / 16), Text.hexChar (c.toNat % 16)]
  else [c]

/-- A text between quotation marks. -/
def printText (text : String) : List Char := '"' :: text.toList.flatMap escapeChar ++ ['"']

/-- A value that is no container. -/
def printScalar : Json → List Char
  | null => ['n', 'u', 'l', 'l']
  | bool true => ['t', 'r', 'u', 'e']
  | bool false => ['f', 'a', 'l', 's', 'e']
  | number numeral => numeral.toList
  | string text => printText (text.getD "")
  | array .. => []
  | object .. => []

mutual

/-- The compact text of a value. -/
def print : Json → List Char
  | array items _ => '[' :: printItems items ++ [']']
  | object members _ => '\x7b' :: printMembers members ++ ['\x7d']
  | value => printScalar value

/-- The compact texts of items with commas between them. -/
def printItems : List Json → List Char
  | [] => []
  | [item] => item.print
  | item :: rest => item.print ++ ',' :: printItems rest

/-- The compact texts of members with commas between them. -/
def printMembers : List (Option String × Json) → List Char
  | [] => []
  | [(key, value)] => printText (key.getD "") ++ ':' :: value.print
  | (key, value) :: rest =>
    printText (key.getD "") ++ ':' :: value.print ++ ',' :: printMembers rest

end

/-- The compact text of a value as a string. -/
def text (value : Json) : String := String.ofList value.print

/-- The start of a line at a level of containers. -/
def lineStart (level : Nat) : List Char := '\n' :: List.replicate (2 * level) ' '

mutual

/-- The indented text of a value inside of `level` containers. -/
def printLines (level : Nat) : Json → List Char
  | array [] _ => ['[', ']']
  | array items _ => '[' :: printItemLines (level + 1) items ++ lineStart level ++ [']']
  | object [] _ => ['\x7b', '\x7d']
  | object members _ =>
    '\x7b' :: printMemberLines (level + 1) members ++ lineStart level ++ ['\x7d']
  | value => printScalar value

/-- The indented texts of items with commas between them. -/
def printItemLines (level : Nat) : List Json → List Char
  | [] => []
  | [item] => lineStart level ++ item.printLines level
  | item :: rest => lineStart level ++ item.printLines level ++ ',' :: printItemLines level rest

/-- The indented texts of members with commas between them. -/
def printMemberLines (level : Nat) : List (Option String × Json) → List Char
  | [] => []
  | [(key, value)] =>
    lineStart level ++ printText (key.getD "") ++ ':' :: ' ' :: value.printLines level
  | (key, value) :: rest =>
    lineStart level ++ printText (key.getD "") ++ ':' :: ' ' :: value.printLines level ++
      ',' :: printMemberLines level rest

end

/-- The indented text of a value as a string. -/
def indentedText (value : Json) : String := String.ofList (value.printLines 0)

end QueryAlgebra.Json
