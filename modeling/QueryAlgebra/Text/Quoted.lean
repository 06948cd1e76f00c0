/-
**Quoted characters and texts in messages.**

A quoted text shows the quotation mark in use, the backslash, tab, newline, carriage return and NUL
as short escapes and every character without a printed form of its own by its code point.
-/
import QueryAlgebra.Text.Unprinted

namespace QueryAlgebra.Text

/-- The hexadecimal digit of a value below sixteen. -/
def hexChar (value : Nat) : Char :=
  if value < 10 then Char.ofNat ('0'.toNat + value) else Char.ofNat ('a'.toNat + (value - 10))

/-- The hexadecimal digits of a number, without leading zeros. -/
def hexDigits (number : Nat) : List Char :=
  if number < 16 then [hexChar number] else hexDigits (number / 16) ++ [hexChar (number % 16)]
termination_by number

/-- A character as it stands between the quotation marks `mark`. -/
def quotedChar (mark c : Char) : List Char :=
  if c = mark || c = '\\' then ['\\', c]
  else if c = '\x00' then ['\\', '0']
  else if c = '\t' then ['\\', 't']
  else if c = '\n' then ['\\', 'n']
  else if c = '\r' then ['\\', 'r']
  else if isUnprinted c then "\\u\x7b".toList ++ hexDigits c.toNat ++ ['\x7d']
  else [c]

/-- A text between quotation marks. -/
def quoted (text : String) : String :=
  String.ofList ('"' :: text.toList.flatMap (quotedChar '"') ++ ['"'])

/-- A character between apostrophes. -/
def quotedSingle (c : Char) : String :=
  String.ofList ('\'' :: quotedChar '\'' c ++ ['\''])

end QueryAlgebra.Text
