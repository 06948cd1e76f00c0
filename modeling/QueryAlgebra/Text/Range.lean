/-
**Ranges of code points.**

A class of characters given by the first and the last code point of each of its ranges.
-/
namespace QueryAlgebra.Text

/-- Whether a character lies in one of the ranges; both ends of a range belong to it. -/
def inRanges (ranges : List (Nat × Nat)) (c : Char) : Bool :=
  ranges.any fun range => range.1 ≤ c.toNat && c.toNat ≤ range.2

end QueryAlgebra.Text
