/-
**The canonical text of floating-point numbers.**

A finite number is one digit, a point, at least one more digit and an exponent after `E`, with the
fewest digits that read back. The words for the others are `INF`, `-INF` and `NaN`, and they are
read together with the numerals.
-/
import QueryAlgebra.Floating.Numeral
import QueryAlgebra.Floating.Shortest

namespace QueryAlgebra.Floating

open Text

/-- One digit, a point and the other digits, or a zero where there is none. -/
def pointedDigits (digits : List Char) : List Char :=
  match digits with
  | [] => ['0', '.', '0']
  | [digit] => [digit, '.', '0']
  | digit :: rest => digit :: '.' :: rest

/-- The canonical text of a number of 64 bits. -/
def canonical : Floating → String
  | nan => "NaN"
  | infinite negative => if negative then "-INF" else "INF"
  | finite negative significand exponent =>
    let shown := shortest .up significand exponent
    let sign := if negative then ['-'] else []
    String.ofList (sign ++ pointedDigits shown.digits ++ 'E' :: signedDigits shown.exponent)

/-- Reads a numeral or one of the canonical words, infinity with an optional plus sign. -/
def ofLexical? (text : List Char) : Option Floating :=
  if text = ['I', 'N', 'F'] ∨ text = ['+', 'I', 'N', 'F'] then some (.infinite false)
  else if text = ['-', 'I', 'N', 'F'] then some (.infinite true)
  else if text = ['N', 'a', 'N'] then some .nan
  else (Numeral.ofText? text).map (Numeral.toFloating .double)

end QueryAlgebra.Floating
