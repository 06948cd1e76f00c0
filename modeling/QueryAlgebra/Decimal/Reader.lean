/-
**Reading decimals.**

A decimal is written as an optional sign and digits with at most one point; underscores may separate
digits. Digits that the type cannot hold after the point are rounded away at the first of them.
A text that is no such numeral may still be one with an exponent of at most 28.
-/
import QueryAlgebra.Decimal.Basic

namespace QueryAlgebra.Decimal

open Text

/-- A digit, or the mark that separates digits. -/
def isDigitOrSeparator (c : Char) : Bool := isDigit c || c == '_'

/-- Rounds a mantissa at the first digit that is dropped after it, five and more going away from
zero; a mantissa that this makes too long gives up its own last digit. -/
def roundAt (negative : Bool) (mantissa scale digit : Nat) : Option Decimal :=
  if digit < 5 then ofParts? negative mantissa scale
  else if mantissa + 1 < twoTo 96 then ofParts? negative (mantissa + 1) scale
  else if scale = 0 then none
  else ofParts? negative ((mantissa + 5) / 10) (scale - 1)

/-- Reads the rest of a numeral after its sign, given the mantissa and the scale read so far and
whether a point and a digit were among it. -/
def readFrom (negative : Bool) (mantissa scale : Nat) (pointSeen digitSeen : Bool) :
    List Char → Option Decimal
  | [] => if digitSeen then ofParts? negative mantissa scale else none
  | c :: rest =>
    if isDigit c then
      let next := 10 * mantissa + digitValue c
      if pointSeen then
        if scale < 28 ∧ next < twoTo 96 then readFrom negative next (scale + 1) true true rest
        else if rest.all isDigitOrSeparator then
          roundAt negative mantissa scale (digitValue c)
        else none
      else if next < twoTo 96 then readFrom negative next scale false true rest
      else none
    else if c = '.' && !pointSeen then readFrom negative mantissa scale true digitSeen rest
    else if c = '_' && digitSeen then readFrom negative mantissa scale pointSeen true rest
    else none

/-- Reads a numeral without an exponent. -/
def ofPlainText? : List Char → Option Decimal
  | '-' :: rest => readFrom true 0 0 false false rest
  | '+' :: rest => readFrom false 0 0 false false rest
  | text => readFrom false 0 0 false false text

/-- Reads the digits of an exponent, after an optional plus sign; it has at most 32 bits. -/
def readExponent? (text : List Char) : Option Nat :=
  let digits := match text with
    | '+' :: rest => rest
    | text => text
  if digits.isEmpty || !digits.all isDigit then none
  else if valueOf digits < twoTo 32 then some (valueOf digits)
  else none

/-- Rounds a decimal to at most `places` fraction digits, a half going away from zero. -/
def roundTo (decimal : Decimal) (places : Nat) : Option Decimal :=
  if decimal.scale ≤ places then some decimal
  else
    let dropped := tenTo (decimal.scale - places)
    let rounded := (decimal.mantissa + dropped / 2) / dropped
    ofParts? decimal.negative rounded places

/-- Multiplies a decimal with a power of ten, `10 ^ -exponent`. -/
def shiftDown? (decimal : Decimal) (exponent : Nat) : Option Decimal :=
  if 28 < exponent then none
  else
    (decimal.roundTo (28 - exponent)).bind fun rounded =>
      ofParts? rounded.negative rounded.mantissa (rounded.scale + exponent)

/-- Multiplies a decimal with a power of ten, `10 ^ exponent`. -/
def shiftUp? (decimal : Decimal) (exponent : Nat) : Option Decimal :=
  if exponent ≤ decimal.scale then
    ofParts? decimal.negative decimal.mantissa (decimal.scale - exponent)
  else if 28 < exponent then none
  else ofParts? decimal.negative (decimal.mantissa * tenTo (exponent - decimal.scale)) 0

/-- Whether a character marks an exponent. -/
def isExponentMark (c : Char) : Bool := c == 'e' || c == 'E'

/-- Reads a numeral with an exponent. -/
def ofScientificText? (text : List Char) : Option Decimal :=
  let base := text.takeWhile (!isExponentMark ·)
  match text.dropWhile (!isExponentMark ·) with
  | [] => none
  | _ :: exponent =>
    (ofPlainText? base).bind fun decimal =>
      match exponent with
      | '-' :: digits => (readExponent? digits).bind decimal.shiftDown?
      | digits => (readExponent? digits).bind decimal.shiftUp?

/-- Reads a decimal numeral with or without an exponent. -/
def ofText? (text : List Char) : Option Decimal :=
  match ofPlainText? text with
  | some decimal => some decimal
  | none => ofScientificText? text

end QueryAlgebra.Decimal
