/-
**Decimal numbers of bounded precision.**

A decimal is a sign, a mantissa of at most 96 bits and a count of at most 28 fraction digits; both
bounds belong to the type. `normalize` drops the zeros at the end of the fraction and the sign of
zero, `truncate` cuts toward zero, and `toText` writes a decimal in positional notation.
-/
import QueryAlgebra.Power
import QueryAlgebra.Text.Digits

namespace QueryAlgebra

open Text

/-- A decimal number, `± mantissa / 10 ^ scale`. -/
structure Decimal where
  negative : Bool
  mantissa : Nat
  scale : Nat
  mantissa_lt : mantissa < twoTo 96
  scale_le : scale ≤ 28
  deriving DecidableEq, Repr

namespace Decimal

/-- The decimal of a sign, a mantissa and a scale within the bounds; zero takes no sign. -/
def ofParts? (negative : Bool) (mantissa scale : Nat) : Option Decimal :=
  if bounds : mantissa < twoTo 96 ∧ scale ≤ 28 then
    some ⟨negative && mantissa != 0, mantissa, scale, bounds.1, bounds.2⟩
  else none

/-- The decimal of a truth value, one or zero. -/
def ofBool (value : Bool) : Decimal :=
  ⟨false, value.toNat, 0, by cases value <;> decide, by decide⟩

/-- Whether a decimal is zero. -/
def isZero (decimal : Decimal) : Bool := decimal.mantissa == 0

/-- Drops zeros at the end of a fraction: the mantissa and the scale that are left. -/
def dropZeros (mantissa : Nat) : Nat → Nat × Nat
  | 0 => (mantissa, 0)
  | scale + 1 =>
    if mantissa % 10 = 0 then dropZeros (mantissa / 10) scale else (mantissa, scale + 1)

theorem dropZeros_le (mantissa scale : Nat) :
    (dropZeros mantissa scale).1 ≤ mantissa ∧ (dropZeros mantissa scale).2 ≤ scale := by
  induction scale generalizing mantissa with
  | zero => exact ⟨Nat.le_refl _, Nat.le_refl _⟩
  | succ scale shorter =>
    unfold dropZeros
    by_cases zero : mantissa % 10 = 0
    · have rest := shorter (mantissa / 10)
      simp only [zero, if_true]
      omega
    · simp [zero]

/-- The same number without zeros at the end of the fraction and, if zero, without a sign. -/
def normalize (decimal : Decimal) : Decimal :=
  have bounds := dropZeros_le decimal.mantissa decimal.scale
  ⟨decimal.negative && !decimal.isZero,
    (dropZeros decimal.mantissa decimal.scale).1, (dropZeros decimal.mantissa decimal.scale).2,
    Nat.lt_of_le_of_lt bounds.1 decimal.mantissa_lt, Nat.le_trans bounds.2 decimal.scale_le⟩

/-- The whole part, cut toward zero. -/
def truncate (decimal : Decimal) : Decimal :=
  ⟨decimal.negative, decimal.mantissa / tenTo decimal.scale, 0,
    Nat.lt_of_le_of_lt (Nat.div_le_self _ _) decimal.mantissa_lt, Nat.zero_le _⟩

/-- The digits of a number, with zeros in front to make up a length. -/
def paddedDigits (length number : Nat) : List Char :=
  let digits := digitsOf number
  List.replicate (length - digits.length) '0' ++ digits

/-- The text of a decimal: a minus sign if negative, the whole part, and after a point as many
digits as the scale says. -/
def toText (decimal : Decimal) : List Char :=
  let unit := tenTo decimal.scale
  let sign := if decimal.negative then ['-'] else []
  let whole := digitsOf (decimal.mantissa / unit)
  if decimal.scale = 0 then sign ++ whole
  else sign ++ whole ++ '.' :: paddedDigits decimal.scale (decimal.mantissa % unit)

/-- The canonical numeral of a decimal. -/
def canonical (decimal : Decimal) : String := String.ofList decimal.normalize.toText

end Decimal

end QueryAlgebra
