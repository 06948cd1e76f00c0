/-
**The shortest digits of a floating-point number.**

`shortest` finds the fewest decimal digits that read back as a given finite number, and of those the
nearest to it. It tests one digit, two digits and so on: on the grid of decimals with that many
digits the two neighbours of the number are the only candidates, and a candidate reads back when it
lies between the midpoints to the neighbouring numbers of the format.
-/
import QueryAlgebra.Floating.Basic
import QueryAlgebra.Text.Digits

namespace QueryAlgebra

open Text

/-- Which of two equally near candidates is taken. -/
inductive TieRule
  | up
  | even
  deriving DecidableEq, Repr

/-- A positive decimal number: the digits of a whole number, and the exponent of the first. -/
structure ScientificDigits where
  digits : List Char
  exponent : Int
  deriving DecidableEq, Repr

namespace Floating

/-- The greatest power of ten not above a positive quotient, as an exponent. -/
def decimalOrder (magnitude : Rat) : Int :=
  if 1 ≤ magnitude then ((digitsOf magnitude.floor.toNat).length : Int) - 1
  else -((digitsOf (magnitude⁻¹.ceil.toNat - 1)).length : Int)

/-- The interval of quotients that round to a number of 64 bits, and whether its ends do. -/
structure RoundingInterval where
  low : Rat
  high : Rat
  closed : Bool

/-- Whether a quotient rounds to the number of the interval. -/
def RoundingInterval.holds (interval : RoundingInterval) (candidate : Rat) : Bool :=
  if interval.closed then interval.low ≤ candidate && candidate ≤ interval.high
  else interval.low < candidate && candidate < interval.high

/-- The interval of a positive number of 64 bits; below a power of two the numbers lie twice as
close as above it. -/
def roundingInterval (significand : Nat) (exponent : Int) : RoundingInterval :=
  let value := magnitudeOf significand exponent
  let half : Rat := (2 : Rat) ^ (exponent - 1)
  let narrow := significand = twoTo 52 ∧ BinaryFormat.double.leastExponent < exponent
  { low := value - (if narrow then half / 2 else half)
    high := value + half
    closed := significand % 2 == 0 }

/-- The best candidate on the grid of multiples of `unit`, if one reads back. -/
def candidate? (tie : TieRule) (value : Rat) (interval : RoundingInterval) (unit : Rat) :
    Option Nat :=
  let below := (value / unit).floor.toNat
  let lower : Rat := (below : Rat) * unit
  let upper : Rat := lower + unit
  match interval.holds lower, interval.holds upper with
  | true, true =>
    let gap := 2 * (value - lower)
    if gap < unit then some below
    else if unit < gap then some (below + 1)
    else match tie with
      | .up => some (below + 1)
      | .even => some (if below % 2 = 0 then below else below + 1)
  | true, false => some below
  | false, true => some (below + 1)
  | false, false => none

/-- Drops the zeros at the end of digits. -/
def dropTrailingZeros (digits : List Char) : List Char :=
  (digits.reverse.dropWhile (· == '0')).reverse

/-- Tries the grids with `count`, `count + 1`, … digits, `tries` of them. -/
def shortestFrom (tie : TieRule) (value : Rat) (interval : RoundingInterval) (order : Int) :
    Nat → Nat → ScientificDigits
  | 0, _ => ⟨['0'], 0⟩
  | tries + 1, count =>
    let unitExponent := order - (count - 1 : Nat)
    match candidate? tie value interval ((10 : Rat) ^ unitExponent) with
    | some number =>
      let digits := digitsOf number
      ⟨dropTrailingZeros digits, unitExponent + (digits.length - 1 : Nat)⟩
    | none => shortestFrom tie value interval order tries (count + 1)

/-- The shortest digits of a number of 64 bits, whatever its sign; 17 digits always suffice. -/
def shortest (tie : TieRule) (significand : Nat) (exponent : Int) : ScientificDigits :=
  if significand = 0 then ⟨['0'], 0⟩
  else
    let value := magnitudeOf significand exponent
    shortestFrom tie value (roundingInterval significand exponent) (decimalOrder value) 17 1

end Floating

end QueryAlgebra
