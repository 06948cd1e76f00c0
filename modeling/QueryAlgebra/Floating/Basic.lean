/-
**Binary floating-point numbers.**

A finite number is a sign, a whole significand and a power of two. `ofRat` rounds an exact quotient
to the nearest number of a binary format, a tie to the even significand; every operation of the
library on such numbers is the exact rational operation followed by `ofRat`.
-/
import QueryAlgebra.Power

namespace QueryAlgebra

/-- A binary format: the bits of a significand and the range of the exponent of its last bit. -/
structure BinaryFormat where
  precision : Nat
  leastExponent : Int
  greatestExponent : Int

namespace BinaryFormat

/-- Numbers of 64 bits. -/
def double : BinaryFormat := ⟨53, -1074, 971⟩

/-- Numbers of 32 bits. -/
def single : BinaryFormat := ⟨24, -149, 104⟩

end BinaryFormat

/-- A floating-point number; `finite` denotes `± significand · 2 ^ exponent`. -/
inductive Floating
  | nan
  | infinite (negative : Bool)
  | finite (negative : Bool) (significand : Nat) (exponent : Int)
  deriving DecidableEq, Repr

namespace Floating

/-- The whole number nearest to a quotient, the even one of two equally near. -/
def nearestEven (numerator denominator : Nat) : Nat :=
  let quotient := numerator / denominator
  let excess := 2 * (numerator % denominator)
  if excess < denominator then quotient
  else if denominator < excess then quotient + 1
  else if quotient % 2 = 0 then quotient
  else quotient + 1

/-- The greatest power of two not above a positive quotient, as an exponent. -/
def binaryOrder (magnitude : Rat) : Int :=
  let guess : Int := (magnitude.num.toNat.log2 : Int) - magnitude.den.log2
  if (2 : Rat) ^ guess ≤ magnitude then guess else guess - 1

/-- The exponent of the last bit of the significand for a positive quotient. -/
def lastExponent (format : BinaryFormat) (magnitude : Rat) : Int :=
  max format.leastExponent (binaryOrder magnitude - (format.precision - 1))

/-- The number of the format nearest to a signed quotient, which overflows to infinity. -/
def ofRat (format : BinaryFormat) (negative : Bool) (magnitude : Rat) : Floating :=
  if magnitude.num ≤ 0 then finite negative 0 format.leastExponent
  else
    let exponent := lastExponent format magnitude
    let scaled := magnitude / (2 : Rat) ^ exponent
    let significand := nearestEven scaled.num.toNat scaled.den
    if significand < twoTo format.precision then
      if exponent ≤ format.greatestExponent then finite negative significand exponent
      else infinite negative
    else if exponent + 1 ≤ format.greatestExponent then
      finite negative (twoTo (format.precision - 1)) (exponent + 1)
    else infinite negative

/-- The magnitude of a finite number. -/
def magnitudeOf (significand : Nat) (exponent : Int) : Rat :=
  (significand : Rat) * (2 : Rat) ^ exponent

/-- The distance from zero; infinity and the missing number count as zero. -/
def magnitude : Floating → Rat
  | finite _ significand exponent => magnitudeOf significand exponent
  | _ => 0

/-- Whether a number is neither infinite nor missing. -/
def isFinite : Floating → Bool
  | finite .. => true
  | _ => false

/-- Whether a number is missing or, whatever its sign, zero. -/
def isZeroOrNan : Floating → Bool
  | nan => true
  | infinite _ => false
  | finite _ significand _ => significand == 0

/-- The nearest number of another format. -/
def convert (format : BinaryFormat) : Floating → Floating
  | finite negative significand exponent =>
    ofRat format negative (magnitudeOf significand exponent)
  | other => other

/-- The whole part, cut toward zero. -/
def truncate : Floating → Floating
  | finite negative significand (.negSucc places) =>
    finite negative (significand / twoTo (places + 1)) 0
  | other => other

/-- The whole number nearest to a nonnegative quotient, a half going up. -/
def nearestWhole (quotient : Rat) : Nat := (quotient + 1 / 2).floor.toNat

end Floating

end QueryAlgebra
