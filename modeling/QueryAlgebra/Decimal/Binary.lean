/-
**Decimals and binary floating-point numbers.**

`Decimal.toFloating` gives the number of 64 bits near a decimal: exactly rounded when the decimal is
whole, and otherwise rounded at its scale after adding the rounded whole part and fraction.
`Decimal.ofFloating?` gives a decimal near a number: a multiple of a power of two exactly if it has
at most 96 bits, and otherwise by trading halves for tenths while the mantissa keeps within 96 bits
and rounding away the digits that a number of 64 bits cannot hold.
-/
import QueryAlgebra.Decimal.Basic
import QueryAlgebra.Floating.Basic

namespace QueryAlgebra.Decimal

open Floating

/-- The nonnegative number of 64 bits nearest to a quotient, as a quotient. -/
def toDouble (quotient : Rat) : Rat := (ofRat .double false quotient).magnitude

/-- The power of ten by repeated squaring in numbers of 64 bits: `result · square ^ exponent`. -/
def doublePower (result square : Rat) (exponent : Nat) : Rat :=
  let next := if exponent % 2 = 1 then toDouble (result * square) else result
  if exponent / 2 = 0 then next
  else doublePower next (toDouble (square * square)) (exponent / 2)
termination_by exponent

/-- The number of 64 bits that a decimal converts to. -/
def toFloating (decimal : Decimal) : Floating :=
  let unit := tenTo decimal.scale
  let whole := toDouble (decimal.mantissa / unit : Nat)
  let fraction := toDouble (toDouble (decimal.mantissa % unit : Nat) / toDouble (unit : Nat))
  if fraction = 0 then ofRat .double decimal.negative whole
  else
    let power := doublePower 1 10 decimal.scale
    let scaled := toDouble (toDouble (whole + fraction) * power)
    ofRat .double decimal.negative ((nearestWhole scaled : Rat) / power)

/-- Trades factors of one half, `steps` of them: `mantissa / 2 ^ steps` becomes a mantissa and the
number of tenths that it counts. A half of an even mantissa is taken; of an odd one five times as
many tenths, or, when those exceed 96 bits, the half without its fraction. -/
def tradeHalves (mantissa tenths : Nat) : Nat → Nat × Nat
  | 0 => (mantissa, tenths)
  | steps + 1 =>
    if mantissa % 2 = 0 then tradeHalves (mantissa / 2) tenths steps
    else if mantissa * 5 < twoTo 96 then tradeHalves (mantissa * 5) (tenths + 1) steps
    else tradeHalves (mantissa / 2) tenths steps

/-- Drops digits until at most 28 are left after the point, `excess` of them: each is rounded on its
own, a five going up. -/
def dropExcess (mantissa : Nat) : Nat → Nat
  | 0 => mantissa
  | excess + 1 =>
    let quotient := mantissa / 10
    if quotient = 0 then 0
    else dropExcess (if 5 ≤ mantissa % 10 then quotient + 1 else quotient) excess

/-- Drops digits after the point while the mantissa has more than 52 bits. -/
def dropImprecise (mantissa : Nat) : Nat → Nat × Nat
  | 0 => (mantissa, 0)
  | scale + 1 =>
    if twoTo 52 ≤ mantissa then
      let quotient := mantissa / 10
      dropImprecise (if 5 ≤ mantissa % 10 then quotient + 1 else quotient) scale
    else (mantissa, scale + 1)

/-- The decimal of a mantissa that counts tenths to a power. -/
def ofTenths? (negative : Bool) (mantissa tenths : Nat) : Option Decimal :=
  let shortened := dropExcess mantissa (tenths - 28)
  let scale := if shortened = 0 then 0 else min tenths 28
  let precise := dropImprecise shortened scale
  let final := dropZeros precise.1 precise.2
  ofParts? negative final.1 final.2

/-- The decimal that a finite number of 64 bits converts to, if it is in range. -/
def ofFloating? : Floating → Option Decimal
  | .finite negative significand exponent =>
    if significand = 0 then ofParts? false 0 0
    else
      match exponent with
      | .ofNat doublings => ofParts? negative (significand * twoTo doublings) 0
      | .negSucc halves =>
        let traded := tradeHalves significand 0 (halves + 1)
        ofTenths? negative traded.1 traded.2
  | _ => none

end QueryAlgebra.Decimal
