/-
**Calls of functions that are not registered.**

The error of such a call tells the key that nothing is registered under. Its wording ends in the
number of arguments with fixed words around it, and before them stands the text of the tag. So the
wording determines the key (`message_unknownOperator`), because the text of a term determines the
term, with any characters in its lexical form, its names and its IRI.
-/
import QueryAlgebra.Evaluation
import QueryAlgebra.Proofs.Term.Display

namespace QueryAlgebra

open Text

/-- A call without a function has the error that tells its tag and its number of arguments. -/
theorem Registry.apply_of_missing {registry : Registry} {tag : Term} {args : List Term}
    (missing : registry.get tag args.length = none) :
    registry.apply tag args = .error (.unknownOperator tag args.length) := by
  rw [apply, missing]

/-- A number can be told from a text that ends in its digits, after a text that ends in no digit. -/
theorem append_digits_cancel {front other : List Char} {number count : Nat}
    (clear : ∀ c, front.reverse.head? = some c → isDigit c = false)
    (otherClear : ∀ c, other.reverse.head? = some c → isDigit c = false)
    (same : front ++ digitsOf number = other ++ digitsOf count) :
    front = other ∧ number = count := by
  have digits : ∀ number, ∀ c ∈ (digitsOf number).reverse, isDigit c = true :=
    fun _ _ member => isDigit_of_mem_digitsOf (List.mem_reverse.mp member)
  have reversed := congrArg List.reverse same
  rw [List.reverse_append, List.reverse_append] at reversed
  obtain ⟨taken, dropped⟩ := takeWhile_stretch (digits number) clear
  obtain ⟨otherTaken, otherDropped⟩ := takeWhile_stretch (digits count) otherClear
  rw [reversed, otherTaken] at taken
  rw [reversed, otherDropped] at dropped
  refine ⟨(List.reverse_inj.mp dropped).symm, ?_⟩
  rw [← valueOf_digitsOf number, ← valueOf_digitsOf count, List.reverse_inj.mp taken]

theorem EvalError.toList_message_unknownOperator (tag : Term) (arity : Nat) :
    (unknownOperator tag arity).message.toList =
      "Unknown operator ".toList ++ tag.display ++ " with ".toList ++ digitsOf arity ++
        " operand(s)".toList := by
  show ("Unknown operator " ++ tag.text ++ " with " ++ String.ofList (digitsOf arity) ++
    " operand(s)").toList = _
  simp only [String.toList_append, Term.text, String.toList_ofList]

/-- **The wording of an unknown operator tells the operator** and the number of arguments. -/
theorem EvalError.message_unknownOperator {tag other : Term} {arity count : Nat}
    (same : (unknownOperator tag arity).message = (unknownOperator other count).message) :
    tag = other ∧ arity = count := by
  have texts := congrArg String.toList same
  rw [toList_message_unknownOperator, toList_message_unknownOperator, List.append_left_inj] at texts
  have spaced : ∀ tag : Term, ∀ c, ("Unknown operator ".toList ++ tag.display ++
      " with ".toList).reverse.head? = some c → isDigit c = false := by
    intro tag c first
    rw [List.reverse_append] at first
    cases first
    rfl
  obtain ⟨fronts, counts⟩ := append_digits_cancel (spaced tag) (spaced other) texts
  rw [List.append_left_inj, List.append_right_inj] at fronts
  exact ⟨Term.display_injective fronts, counts⟩

/-- **The text of a term determines it**, and so the error of a call without a function determines
the key that was looked up: where two such calls fail in the same words, the tags and the numbers of
arguments are the same. -/
theorem Registry.text_determines_key :
    (∀ first second : Term, first.text = second.text → first = second) ∧
    ∀ (registry other : Registry) (tag otherTag : Term) (args otherArgs : List Term)
      (error otherError : EvalError),
      registry.get tag args.length = none → other.get otherTag otherArgs.length = none →
      registry.apply tag args = .error error → other.apply otherTag otherArgs = .error otherError →
      error.message = otherError.message →
      (⟨tag, args.length⟩ : FunctionKey) = ⟨otherTag, otherArgs.length⟩ := by
  constructor
  · intro first second same
    exact Term.display_injective (String.ofList_injective same)
  · intro registry other tag otherTag args otherArgs error otherError missing otherMissing fails
      otherFails same
    rw [apply_of_missing missing] at fails
    rw [apply_of_missing otherMissing] at otherFails
    cases fails
    cases otherFails
    obtain ⟨sameTag, sameCount⟩ := EvalError.message_unknownOperator same
    rw [sameTag, sameCount]

/-- A tag that looks like one of another language, in two spellings of its own language. -/
theorem Registry.text_determines_key_tagged :
    (Term.literal (.tagged "chat\"@en" "FR")).text = (Term.literal (.tagged "chat\"@en" "fr")).text ∧
    Term.literal (.tagged "chat\"@en" "FR") = .literal (.tagged "chat\"@en" "fr") ∧
    Registry.empty.apply (.literal (.tagged "chat\"@en" "FR")) [] =
      .error (.unknownOperator (.literal (.tagged "chat\"@en" "FR")) 0) ∧
    Registry.standard.apply (.literal (.tagged "chat\"@en" "fr")) [] =
      .error (.unknownOperator (.literal (.tagged "chat\"@en" "fr")) 0) ∧
    (⟨.literal (.tagged "chat\"@en" "FR"), 0⟩ : FunctionKey) =
      ⟨.literal (.tagged "chat\"@en" "fr"), 0⟩ := by
  have texts : (Term.literal (.tagged "chat\"@en" "FR")).text =
      (Term.literal (.tagged "chat\"@en" "fr")).text := by
    decide
  have terms := text_determines_key.1 _ _ texts
  have fails : Registry.empty.apply (.literal (.tagged "chat\"@en" "FR")) [] =
      .error (.unknownOperator (.literal (.tagged "chat\"@en" "FR")) 0) := rfl
  have otherFails : Registry.standard.apply (.literal (.tagged "chat\"@en" "fr")) [] =
      .error (.unknownOperator (.literal (.tagged "chat\"@en" "fr")) 0) := rfl
  have words : (EvalError.unknownOperator (.literal (.tagged "chat\"@en" "FR")) 0).message =
      (EvalError.unknownOperator (.literal (.tagged "chat\"@en" "fr")) 0).message := by
    rw [terms]
  exact ⟨texts, terms, fails, otherFails,
    text_determines_key.2 _ _ _ _ [] [] _ _ rfl rfl fails otherFails words⟩

end QueryAlgebra
