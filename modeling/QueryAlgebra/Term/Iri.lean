/-
**IRIs.**

An IRI is held as its text. `Iri.parse` accepts as an absolute IRI a text with a scheme, a colon and
a rest, without blanks and without the delimiters of the syntax. `Iri.parse_eq_ok_iff` says exactly
which texts these are.
-/
import QueryAlgebra.Text.Blank
import QueryAlgebra.Text.Digits
import QueryAlgebra.Text.Quoted

namespace QueryAlgebra

open Text

/-- An IRI, not necessarily a valid one. -/
structure Iri where
  text : String
  deriving DecidableEq, Repr

/-- Why a text is no absolute IRI. -/
inductive IriFault
  | missingScheme
  | forbidden (c : Char)
  deriving DecidableEq, Repr

namespace IriFault

/-- The wording of a fault. -/
def message : IriFault → String
  | missingScheme => "missing scheme"
  | forbidden c => "forbidden character " ++ quotedSingle c

end IriFault

namespace Iri

/-- The characters of a scheme after its first. -/
def isSchemeChar (c : Char) : Bool :=
  isLetter c || isDigit c || c == '+' || c == '-' || c == '.'

/-- Whether a text begins with a scheme and a colon. -/
def hasScheme (text : List Char) : Bool :=
  match text.dropWhile (· != ':') with
  | [] => false
  | _ :: _ =>
    match text.takeWhile (· != ':') with
    | [] => false
    | first :: rest => isLetter first && isSchemeChar first && rest.all isSchemeChar

/-- The delimiters that may not stand in an IRI. -/
def delimiters : List Char := ['<', '>', '"', '\x7b', '\x7d', '|', '^', '\x60', '\\']

/-- Whether a character may not stand in an IRI. -/
def isForbidden (c : Char) : Bool := isBlank c || delimiters.contains c

/-- Accepts the text of an absolute IRI. -/
def parse (text : String) : Except IriFault Iri :=
  if hasScheme text.toList then
    match text.toList.find? isForbidden with
    | some c => .error (.forbidden c)
    | none => .ok ⟨text⟩
  else .error .missingScheme

/-- Whether an IRI is an absolute one. -/
def IsAbsolute (iri : Iri) : Prop := parse iri.text = .ok iri

instance (iri : Iri) : Decidable iri.IsAbsolute := by
  unfold IsAbsolute
  cases parsed : parse iri.text with
  | ok other => exact decidable_of_iff (other = iri) (by simp)
  | error fault => exact isFalse (by simp)

/-- The accepted texts are those with a scheme and without a forbidden character. -/
theorem parse_eq_ok_iff {text : String} {iri : Iri} :
    parse text = .ok iri ↔
      iri = ⟨text⟩ ∧ hasScheme text.toList = true ∧ ∀ c ∈ text.toList, isForbidden c = false := by
  unfold parse
  by_cases scheme : hasScheme text.toList = true
  · cases found : text.toList.find? isForbidden with
    | none =>
      have clean := List.find?_eq_none.mp found
      simp only [scheme, if_true, Except.ok.injEq, true_and]
      exact ⟨fun same => ⟨same.symm, fun c member => by simpa using clean c member⟩,
        fun same => same.1.symm⟩
    | some c =>
      simp only [scheme, if_true, reduceCtorEq, true_and, false_iff, not_and]
      intro _ clean
      have bad := List.find?_some found
      have good := clean c (List.mem_of_find?_eq_some found)
      simp [bad] at good
  · simp [scheme]

/-- An IRI between angle brackets. -/
def display (iri : Iri) : List Char := '<' :: iri.text.toList ++ ['>']

end Iri

end QueryAlgebra
