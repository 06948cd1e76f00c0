/-
**Powers of two and of ten.**

A word of so many bits has a power of two values, and a power of ten counts the units of the last
of so many decimal places.
-/
namespace QueryAlgebra

/-- The power of two with an exponent. -/
def twoTo (exponent : Nat) : Nat := Nat.pow 2 exponent

/-- The power of ten with an exponent. -/
def tenTo (exponent : Nat) : Nat := Nat.pow 10 exponent

theorem twoTo_zero : twoTo 0 = 1 := rfl

theorem twoTo_succ (exponent : Nat) : twoTo (exponent + 1) = twoTo exponent * 2 := rfl

theorem twoTo_pos (exponent : Nat) : 0 < twoTo exponent := Nat.pow_pos (by decide)

theorem tenTo_zero : tenTo 0 = 1 := rfl

theorem tenTo_succ (exponent : Nat) : tenTo (exponent + 1) = tenTo exponent * 10 := rfl

theorem tenTo_pos (exponent : Nat) : 0 < tenTo exponent := Nat.pow_pos (by decide)

end QueryAlgebra
