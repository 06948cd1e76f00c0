/-
**White space and the text between it.**

`isBlank` is the class of characters with the property White_Space. `trim` takes them off both ends
of a text. Main statements: the white space of ASCII is blank (`isBlank_of_isWhitespace`), and a
text whose two ends are not blank is left as it is (`trim_eq_self`).
-/
namespace QueryAlgebra.Text

/-- The characters with the property White_Space. -/
def isBlank (c : Char) : Bool :=
  let point := c.toNat
  (9 ≤ point && point ≤ 13) || point == 0x20 || point == 0x85 || point == 0xA0 ||
    point == 0x1680 || (0x2000 ≤ point && point ≤ 0x200A) || point == 0x2028 ||
    point == 0x2029 || point == 0x202F || point == 0x205F || point == 0x3000

/-- The text without the blanks at its end. -/
def trimRight (text : List Char) : List Char :=
  (text.reverse.dropWhile isBlank).reverse

/-- The text without the blanks at its two ends. -/
def trim (text : List Char) : List Char :=
  trimRight (text.dropWhile isBlank)

/-- The white space that core knows is blank. -/
theorem isBlank_of_isWhitespace {c : Char} (white : c.isWhitespace = true) : isBlank c = true := by
  simp only [Char.isWhitespace, Bool.or_eq_true, decide_eq_true_eq] at white
  rcases white with ((rfl | rfl) | rfl) | rfl <;> decide

/-- A text whose two ends are not blank is left as it is. -/
theorem trim_eq_self {text : List Char} (front : ∀ c ∈ text.head?, isBlank c = false)
    (back : ∀ c ∈ text.getLast?, isBlank c = false) : trim text = text := by
  have keepFront : text.dropWhile isBlank = text := by
    cases text with
    | nil => rfl
    | cons c rest => simp [front c (by simp)]
  have keepBack : text.reverse.dropWhile isBlank = text.reverse := by
    cases shape : text.reverse with
    | nil => rfl
    | cons c rest =>
      have last : text.getLast? = some c := by
        rw [← List.head?_reverse, shape]
        rfl
      simp [back c (by simp [last])]
  rw [trim, keepFront, trimRight, keepBack, List.reverse_reverse]

end QueryAlgebra.Text
