/-
**The tokens of JSON.**

Strings, words and six marks. The characters of a string are read with their escapes, in which a
character beyond the sixteen-bit range is a pair of surrogates; a surrogate without its partner
stands for no character. A word is one of the three names or a numeral.
-/
import QueryAlgebra.Text.Digits

namespace QueryAlgebra.Json

open Text

/-- A token; a run of characters that forms none is a fault. -/
inductive Token
  | openArray
  | closeArray
  | openObject
  | closeObject
  | colon
  | comma
  | null
  | bool (value : Bool)
  | number (numeral : String)
  | string (text : Option String)
  | fault
  deriving DecidableEq, Repr

/-- The marks. -/
def mark? (c : Char) : Option Token :=
  if c = '[' then some .openArray
  else if c = ']' then some .closeArray
  else if c = '\x7b' then some .openObject
  else if c = '\x7d' then some .closeObject
  else if c = ':' then some .colon
  else if c = ',' then some .comma
  else none

/-- The characters between tokens. -/
def isSpace (c : Char) : Bool := c == ' ' || c == '\t' || c == '\n' || c == '\r'

/-- Whether a character ends a word. -/
def endsWord (c : Char) : Bool := isSpace c || c == '"' || (mark? c).isSome

/-! ### Numerals -/

/-- A numeral in its parts. -/
structure NumeralParts where
  negative : Bool
  whole : List Char
  /-- The digits after the point, if there is one. -/
  fraction : Option (List Char)
  /-- The sign and the digits of the exponent, if there is one. -/
  exponent : Option (Bool × List Char)
  deriving DecidableEq, Repr

/-- Digits of which there is at least one and, unless alone, the first is not zero. -/
def isWholeNumeral : List Char → Bool
  | [] => false
  | ['0'] => true
  | digits => digits.head? != some '0' && digits.all isDigit

/-- Whether there are digits, and nothing else. -/
def isDigits (digits : List Char) : Bool := !digits.isEmpty && digits.all isDigit

/-- Whether the parts make up a numeral. -/
def NumeralParts.isSound (parts : NumeralParts) : Bool :=
  isWholeNumeral parts.whole && parts.fraction.all isDigits &&
    parts.exponent.all fun exponent => isDigits exponent.2

/-- The sign and the digits of an exponent. -/
def exponentParts : List Char → Bool × List Char
  | '-' :: digits => (true, digits)
  | '+' :: digits => (false, digits)
  | digits => (false, digits)

/-- Divides a word at its sign, its point and its exponent. -/
def divideNumeral (word : List Char) : NumeralParts :=
  let unsigned := if word.head? = some '-' then word.drop 1 else word
  let isExponentMark := fun c => c == 'e' || c == 'E'
  let base := unsigned.takeWhile fun c => !isExponentMark c
  let afterMark := unsigned.dropWhile fun c => !isExponentMark c
  let afterPoint := base.dropWhile (· != '.')
  { negative := word.head? = some '-'
    whole := base.takeWhile (· != '.')
    fraction := if afterPoint.isEmpty then none else some (afterPoint.drop 1)
    exponent := if afterMark.isEmpty then none else some (exponentParts (afterMark.drop 1)) }

/-- The parts of a word that is a numeral. -/
def numeralParts? (word : List Char) : Option NumeralParts :=
  let parts := divideNumeral word
  if parts.isSound then some parts else none

/-- The token of a word. -/
def wordToken (word : List Char) : Token :=
  if word = ['n', 'u', 'l', 'l'] then .null
  else if word = ['t', 'r', 'u', 'e'] then .bool true
  else if word = ['f', 'a', 'l', 's', 'e'] then .bool false
  else if (numeralParts? word).isSome then .number (String.ofList word)
  else .fault

/-! ### Strings -/

/-- What stands in a string: a character, or a unit of sixteen bits that was given by its number. -/
inductive Piece
  | char (c : Char)
  | unit (code : Nat)
  deriving DecidableEq, Repr

/-- The units that begin a pair. -/
def isHighSurrogate (code : Nat) : Bool := 0xD800 ≤ code && code < 0xDC00

/-- The units that end a pair. -/
def isLowSurrogate (code : Nat) : Bool := 0xDC00 ≤ code && code < 0xE000

/-- The character of a pair of surrogates. -/
def pairedChar (high low : Nat) : Char :=
  Char.ofNat (0x10000 + 0x400 * (high - 0xD800) + (low - 0xDC00))

/-- The characters of the pieces, none where a surrogate has no partner; `waiting` is a unit that
begins a pair and stands just before the pieces. -/
def joinPieces : (waiting : Option Nat) → List Piece → Option (List Char)
  | none, [] => some []
  | some _, [] => none
  | none, .char c :: rest => (joinPieces none rest).map (c :: ·)
  | some _, .char _ :: _ => none
  | none, .unit code :: rest =>
    if isHighSurrogate code then joinPieces (some code) rest
    else if isLowSurrogate code then none
    else (joinPieces none rest).map (Char.ofNat code :: ·)
  | some high, .unit code :: rest =>
    if isLowSurrogate code then (joinPieces none rest).map (pairedChar high code :: ·)
    else none

/-- The token of a string. -/
def stringToken (pieces : List Piece) : Token :=
  .string ((joinPieces none pieces).map String.ofList)

/-- The character that a letter after a backslash stands for. -/
def escapedChar? (c : Char) : Option Char :=
  if c = '"' then some '"'
  else if c = '\\' then some '\\'
  else if c = '/' then some '/'
  else if c = 'b' then some '\x08'
  else if c = 'f' then some '\x0c'
  else if c = 'n' then some '\n'
  else if c = 'r' then some '\r'
  else if c = 't' then some '\t'
  else none

/-- The value of a hexadecimal digit. -/
def hexValue? (c : Char) : Option Nat :=
  if isDigit c then some (digitValue c)
  else if 'a' ≤ c && c ≤ 'f' then some (c.toNat - 'a'.toNat + 10)
  else if 'A' ≤ c && c ≤ 'F' then some (c.toNat - 'A'.toNat + 10)
  else none

end QueryAlgebra.Json
