/-
**Numerals of floating-point numbers.**

A numeral is an optional sign, digits with an optional point and at least one digit, and an optional
exponent. `Numeral.ofText?` reads that grammar, `Numeral.toFloating` rounds the number that it
denotes, and `Floating.ofText?` reads the words for infinity and for the missing number as well.
-/
import QueryAlgebra.Floating.Basic
import QueryAlgebra.Text.Digits

namespace QueryAlgebra

open Text

/-- A numeral in scientific notation. -/
structure Numeral where
  negative : Bool
  /-- The digits before the point. -/
  whole : List Char
  /-- The digits after the point. -/
  fraction : List Char
  exponent : Int
  deriving DecidableEq, Repr

namespace Numeral

/-- Splits an optional sign off a text; `true` means minus. -/
def splitSign : List Char → Bool × List Char
  | '-' :: rest => (true, rest)
  | '+' :: rest => (false, rest)
  | text => (false, text)

/-- The digits at the front of a text and the rest of it. -/
def splitDigits (text : List Char) : List Char × List Char :=
  (text.takeWhile isDigit, text.dropWhile isDigit)

/-- Reads an optional exponent that takes up the whole text. -/
def readExponent? : List Char → Option Int
  | [] => some 0
  | c :: rest =>
    if c = 'e' || c = 'E' then
      let (negative, digits) := splitSign rest
      if digits.isEmpty || !digits.all isDigit then none
      else if negative then some (-(valueOf digits : Int))
      else some (valueOf digits)
    else none

/-- Reads a numeral that takes up the whole text. -/
def ofText? (text : List Char) : Option Numeral :=
  let (negative, unsigned) := splitSign text
  let (whole, afterWhole) := splitDigits unsigned
  let (fraction, afterFraction) :=
    match afterWhole with
    | '.' :: rest => splitDigits rest
    | rest => ([], rest)
  if whole.isEmpty && fraction.isEmpty then none
  else (readExponent? afterFraction).map fun exponent => ⟨negative, whole, fraction, exponent⟩

/-- The digits of a numeral read as one whole number. -/
def digitsValue (numeral : Numeral) : Nat :=
  valueOf (numeral.whole ++ numeral.fraction)

/-- The power of ten that the digits are multiplied with, kept in a range outside of which a
number of any format is zero or infinite. -/
def scale (numeral : Numeral) : Int :=
  let places : Int := numeral.whole.length + numeral.fraction.length
  max (-(400 + places)) (min 400 (numeral.exponent - numeral.fraction.length))

/-- The number of a format nearest to what a numeral denotes. -/
def toFloating (format : BinaryFormat) (numeral : Numeral) : Floating :=
  Floating.ofRat format numeral.negative ((numeral.digitsValue : Rat) * (10 : Rat) ^ numeral.scale)

end Numeral

/-- Reads a numeral, or one of the words `inf`, `infinity` and `nan` in any case and with an
optional sign, as a number of 64 bits. -/
def Floating.ofText? (text : List Char) : Option Floating :=
  let (negative, unsigned) := Numeral.splitSign text
  let word := String.ofList (unsigned.map Char.toLower)
  if word = "inf" || word = "infinity" then some (.infinite negative)
  else if word = "nan" then some .nan
  else (Numeral.ofText? text).map (Numeral.toFloating .double)

end QueryAlgebra
