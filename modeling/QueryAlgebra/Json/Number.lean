/-
**The numbers of JSON.**

A numeral without point and exponent that fits a word of 64 bits is a whole number. Any other is
read as a floating-point number of 64 bits: the digits that fit a word make a whole number, which is
rounded, and it is multiplied or divided by the rounded power of ten. A number beyond the range of
the format is refused. A number is written as a whole number or with the fewest digits that read
back.
-/
import QueryAlgebra.Floating.Shortest
import QueryAlgebra.Json.Token

namespace QueryAlgebra.Json

open Text

/-- The value of a numeral. -/
inductive NumberValue
  | whole (value : Int)
  | floating (negative : Bool) (significand : Nat) (exponent : Int)
  deriving DecidableEq, Repr

namespace NumberValue

/-- The greatest word of 64 bits. -/
def greatestWord : Nat := twoTo 64 - 1

/-- Adds digits to a word as long as it stays one; the word, and the digits left. -/
def foldWord (word : Nat) : List Char → Nat × List Char
  | [] => (word, [])
  | c :: rest =>
    let next := 10 * word + digitValue c
    if next ≤ greatestWord then foldWord next rest else (word, c :: rest)

/-- The number nearest to a quotient, as a quotient. -/
def rounded (quotient : Rat) : Rat := (Floating.ofRat .double false quotient).magnitude

/-- The number nearest to a power of ten. -/
def powerOfTen (exponent : Nat) : Rat := rounded ((10 : Rat) ^ exponent)

/-- Multiplies or divides a number by a power of ten, rounding; none beyond the range. There are
powers up to the 308th: beyond that only zero is multiplied, and divisions are made in steps. -/
def scaleSteps : (steps : Nat) → Rat → Int → Option Rat
  | 0, _, _ => none
  | steps + 1, value, exponent =>
    if 308 < exponent then if value = 0 then some 0 else none
    else if exponent < -308 then
      if value = 0 then some 0
      else scaleSteps steps (rounded (value / powerOfTen 308)) (exponent + 308)
    else if exponent < 0 then some (rounded (value / powerOfTen exponent.natAbs))
    else
      let scaled := Floating.ofRat .double false (value * powerOfTen exponent.natAbs)
      if scaled.isFinite then some scaled.magnitude else none

/-- The number nearest to a word, scaled by a power of ten; the value vanishes after three steps. -/
def scaledWord (word : Nat) (exponent : Int) : Option Rat :=
  scaleSteps 5 (rounded word) exponent

/-- A signed number of the format as a value. -/
def ofMagnitude (negative : Bool) (magnitude : Rat) : NumberValue :=
  match Floating.ofRat .double negative magnitude with
  | .finite negative significand exponent => floating negative significand exponent
  | _ => floating negative 0 0

/-- The exponents that are held exactly; greater ones make every number vanish or overflow. -/
def greatestExponent : Nat := twoTo 31 - 1

/-- The exponent that is written, cut at the ends of its range. -/
def writtenExponent : Option (Bool × List Char) → Int
  | none => 0
  | some (negative, digits) =>
    let magnitude : Int := min (valueOf digits) (greatestExponent + 1)
    if negative then -magnitude else magnitude

/-- The floating-point value of the parts of a numeral. -/
def ofParts? (parts : NumeralParts) : Option NumberValue :=
  let (first, dropped) := foldWord 0 parts.whole
  let fraction := parts.fraction.getD []
  let (word, ignored) := foldWord first fraction
  let exponent : Int := dropped.length - (fraction.length - ignored.length : Nat)
  (scaledWord word (exponent + writtenExponent parts.exponent)).map (ofMagnitude parts.negative)

/-- The value of a numeral, if it is in range. -/
def ofNumeral? (numeral : String) : Option NumberValue :=
  (numeralParts? numeral.toList).bind fun parts =>
    let value := valueOf parts.whole
    if parts.fraction.isSome || parts.exponent.isSome then ofParts? parts
    else if parts.negative then
      if 0 < value && value ≤ twoTo 63 then some (whole (-(value : Int))) else ofParts? parts
    else if value ≤ greatestWord then some (whole value)
    else ofParts? parts

/-- The digits with the point in its place, a zero on either side where there is no digit. -/
def positional (digits : List Char) (exponent : Int) : List Char :=
  match exponent with
  | .negSucc places => ['0', '.'] ++ List.replicate places '0' ++ digits
  | .ofNat places =>
    let whole := digits.take (places + 1)
    let fraction := digits.drop (places + 1)
    let padding := List.replicate (places + 1 - whole.length) '0'
    whole ++ padding ++ '.' :: (if fraction.isEmpty then ['0'] else fraction)

/-- One digit, the others after a point, and the exponent with its sign. -/
def scientific (digits : List Char) (exponent : Int) : List Char :=
  let fraction := digits.drop 1
  let point := if fraction.isEmpty then [] else '.' :: fraction
  let sign := if exponent < 0 then '-' else '+'
  digits.take 1 ++ point ++ 'e' :: sign :: digitsOf exponent.natAbs

/-- The numeral that a value is written as; the point keeps its place for exponents from -5 to
15. -/
def numeral : NumberValue → List Char
  | whole value => signedDigits value
  | floating negative significand exponent =>
    let shown := Floating.shortest .even significand exponent
    let sign := if negative then ['-'] else []
    sign ++
      if -5 ≤ shown.exponent ∧ shown.exponent ≤ 15 then positional shown.digits shown.exponent
      else scientific shown.digits shown.exponent

end NumberValue

/-- The numeral of the same number in the form that is written, if the number is in range. -/
def canonicalNumeral? (numeral : String) : Option String :=
  (NumberValue.ofNumeral? numeral).map fun value => String.ofList value.numeral

end QueryAlgebra.Json
