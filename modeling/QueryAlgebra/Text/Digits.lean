/-
**Decimal digits.**

`digitsOf` writes a number in base ten without leading zeros and `valueOf` reads digits. Main
statements: reading what was written gives the number back (`valueOf_digitsOf`), and what is written
is the numeral of the number in base ten (`digitsOf_eq_toDigits`).
-/
namespace QueryAlgebra.Text

/-- The ten ASCII digits. -/
def isDigit (c : Char) : Bool := '0' ≤ c && c ≤ '9'

/-- The ASCII letters. -/
def isLetter (c : Char) : Bool := ('a' ≤ c && c ≤ 'z') || ('A' ≤ c && c ≤ 'Z')

/-- The value of a digit. -/
def digitValue (c : Char) : Nat := c.toNat - '0'.toNat

/-- The digit of a value below ten. -/
def digitChar (value : Nat) : Char := Char.ofNat ('0'.toNat + value)

/-- The digits of a number, most significant first and without leading zeros. -/
def digitsOf (number : Nat) : List Char :=
  if number < 10 then [digitChar number]
  else digitsOf (number / 10) ++ [digitChar (number % 10)]
termination_by number

/-- The digits of a whole number after its sign, if negative. -/
def signedDigits : Int → List Char
  | .ofNat number => digitsOf number
  | .negSucc number => '-' :: digitsOf (number + 1)

/-- The number that digits denote, continuing from the number that the digits before denote. -/
def valueFrom (start : Nat) (digits : List Char) : Nat :=
  digits.foldl (fun value c => 10 * value + digitValue c) start

/-- The number that digits denote. -/
def valueOf (digits : List Char) : Nat := valueFrom 0 digits

theorem digitValue_digitChar {value : Nat} (small : value < 10) :
    digitValue (digitChar value) = value := by
  match value, small with
  | 0, _ | 1, _ | 2, _ | 3, _ | 4, _ | 5, _ | 6, _ | 7, _ | 8, _ | 9, _ => rfl

theorem isDigit_digitChar {value : Nat} (small : value < 10) :
    isDigit (digitChar value) = true := by
  match value, small with
  | 0, _ | 1, _ | 2, _ | 3, _ | 4, _ | 5, _ | 6, _ | 7, _ | 8, _ | 9, _ => rfl

@[simp] theorem valueFrom_append (start : Nat) (front back : List Char) :
    valueFrom start (front ++ back) = valueFrom (valueFrom start front) back :=
  List.foldl_append

/-- Reading the digits of a number gives the number back. -/
theorem valueOf_digitsOf (number : Nat) : valueOf (digitsOf number) = number := by
  induction number using Nat.strongRecOn with
  | ind number smaller =>
    unfold digitsOf
    by_cases small : number < 10
    · simp [small, valueOf, valueFrom, digitValue_digitChar small]
    · have quotient := smaller (number / 10) (by omega)
      unfold valueOf at quotient
      simp only [small, if_false, valueOf, valueFrom_append, quotient]
      have last : digitValue (digitChar (number % 10)) = number % 10 :=
        digitValue_digitChar (by omega)
      simp only [valueFrom, List.foldl_cons, List.foldl_nil, last]
      omega

theorem digitChar_eq {value : Nat} (small : value < 10) :
    digitChar value = Nat.digitChar value := by
  match value, small with
  | 0, _ | 1, _ | 2, _ | 3, _ | 4, _ | 5, _ | 6, _ | 7, _ | 8, _ | 9, _ => rfl

/-- The digits of a number are its numeral in base ten. -/
theorem digitsOf_eq_toDigits (number : Nat) : digitsOf number = Nat.toDigits 10 number := by
  induction number using Nat.strongRecOn with
  | ind number smaller =>
    rw [digitsOf, Nat.toDigits_eq_if (by decide)]
    by_cases small : number < 10
    · rw [if_pos small, if_pos small, digitChar_eq small]
    · rw [if_neg small, if_neg small, smaller (number / 10) (by omega), digitChar_eq (by omega)]

/-- A number is written in digits. -/
theorem isDigit_of_mem_digitsOf {number : Nat} {c : Char} (member : c ∈ digitsOf number) :
    isDigit c = true := by
  induction number using Nat.strongRecOn with
  | ind number smaller =>
    unfold digitsOf at member
    by_cases small : number < 10
    · simp only [small, if_true, List.mem_singleton] at member
      exact member ▸ isDigit_digitChar small
    · simp only [small, if_false, List.mem_append, List.mem_singleton] at member
      rcases member with member | rfl
      · exact smaller (number / 10) (by omega) member
      · exact isDigit_digitChar (by omega)

end QueryAlgebra.Text
