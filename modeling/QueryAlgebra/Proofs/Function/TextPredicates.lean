/-
**Predicates on texts.**

The three predicates ask where a text stands in another: at its beginning, at its end or anywhere
(`TextRelation`). They decide the decompositions of the text (`TextRelation.decides_iff`), and they
fail exactly on arguments that are not compatible, with the first fault of these
(`standard_text_predicate`). Two plain literals are compatible when the second has no language or
that of the first (`compatible_iff`).
-/
import QueryAlgebra.Evaluation
import QueryAlgebra.Proofs.Function.Results

namespace QueryAlgebra

/-! ### Texts in texts -/

/-- Where a text can stand in another. -/
inductive TextRelation
  | beginning
  | ending
  | anywhere
  deriving DecidableEq, Repr

namespace TextRelation

/-- The name of the function that asks for a relation. -/
def name : TextRelation → Iri
  | beginning => Fn.startsWith
  | ending => Fn.endsWith
  | anywhere => Fn.contains

/-- Whether a part stands in a text. -/
def Holds : TextRelation → String → String → Prop
  | beginning, text, part => ∃ back, text = part ++ back
  | ending, text, part => ∃ front, text = front ++ part
  | anywhere, text, part => ∃ front back, text = front ++ part ++ back

/-- What the function of a relation computes of the characters of two texts. -/
def decides : TextRelation → List Char → List Char → Bool
  | beginning, text, part => part.isPrefixOf text
  | ending, text, part => part.isSuffixOf text
  | anywhere, text, part => Strings.isInfix part text

variable {relation : TextRelation} {text part : String}

theorem holds_beginning : beginning.Holds text part ↔ part.toList <+: text.toList := by
  constructor
  · rintro ⟨back, rfl⟩
    rw [String.toList_append]
    exact List.prefix_append _ _
  · rintro ⟨back, same⟩
    exact ⟨String.ofList back, String.toList_inj.mp (by simp [same])⟩

theorem holds_ending : ending.Holds text part ↔ part.toList <:+ text.toList := by
  constructor
  · rintro ⟨front, rfl⟩
    rw [String.toList_append]
    exact List.suffix_append _ _
  · rintro ⟨front, same⟩
    exact ⟨String.ofList front, String.toList_inj.mp (by simp [same])⟩

theorem holds_anywhere : anywhere.Holds text part ↔ part.toList <:+: text.toList := by
  constructor
  · rintro ⟨front, back, rfl⟩
    rw [String.toList_append, String.toList_append]
    exact List.infix_append _ _ _
  · rintro ⟨front, back, same⟩
    exact ⟨String.ofList front, String.ofList back, String.toList_inj.mp (by simp [same])⟩

/-- A part is found by looking for it at the beginning of each end of the text. -/
theorem isInfix_iff {part text : List Char} : Strings.isInfix part text = true ↔ part <:+: text := by
  induction text with
  | nil => rw [Strings.isInfix, List.isEmpty_iff, List.infix_nil]
  | cons c text inRest =>
    rw [Strings.isInfix, Bool.or_eq_true, List.isPrefixOf_iff_prefix, inRest, List.infix_cons_iff]

/-- **The decompositions of a text are decided.** -/
theorem decides_iff : relation.decides text.toList part.toList = true ↔ relation.Holds text part := by
  cases relation with
  | beginning => rw [holds_beginning, decides, List.isPrefixOf_iff_prefix]
  | ending => rw [holds_ending, decides, List.isSuffixOf_iff_suffix]
  | anywhere => rw [holds_anywhere, decides, isInfix_iff]

end TextRelation

/-! ### Compatible arguments -/

theorem Term.ofBool_eq_true {truth : Bool} (same : Term.ofBool truth = .ofBool true) :
    truth = true := by
  cases truth with
  | true => rfl
  | false => exact absurd same (by decide)

theorem Term.isPlain_iff {term : Term} :
    term.isPlain = true ↔ ∃ literal, term = .literal literal ∧ literal.isPlain = true := by
  cases term <;> simp [Term.isPlain, Term.literal?]

namespace Strings

variable {first second : Term}

/-- **Compatible arguments** are plain literals of which neither has a language, or both have the
same, or only the first has one. -/
theorem compatible_iff :
    compatible first second = true ↔
      first.isPlain = true ∧ second.isPlain = true ∧
        (first.language? = none ∧ second.language? = none ∨
          (∃ tag, first.language? = some tag ∧ second.language? = some tag) ∨
          (∃ tag, first.language? = some tag) ∧ second.language? = none) := by
  cases first with
  | literal left =>
    cases second with
    | literal right =>
      have languages : (Term.literal left).language? = left.language? ∧
          (Term.literal right).language? = right.language? := ⟨rfl, rfl⟩
      rw [compatible, Bool.and_eq_true, Bool.and_eq_true, and_assoc, languages.1, languages.2]
      refine and_congr_right fun _ => and_congr_right fun _ => ?_
      cases left.language? with
      | none => cases right.language? <;> simp
      | some tag =>
        cases right.language? with
        | none => simp
        | some other => simpa using eq_comm
    | iri _ | blank _ | var _ => exact iff_of_false nofun nofun
  | iri _ | blank _ | var _ => exact iff_of_false nofun nofun

/-! ### The functions -/

theorem textLiteral_of_not_isPlain (notPlain : first.isPlain = false) :
    textLiteral first = .error (.typeMismatch (.notText first)) := by
  cases first with
  | literal literal => exact if_neg (Bool.eq_false_iff.mp notPlain)
  | iri _ | blank _ | var _ => rfl

variable {operator : Iri} {holds : List Char → List Char → Bool}

/-- The checks of a predicate, one after the other. -/
theorem predicate_eq :
    predicate operator holds [first, second] =
      textLiteral first >>= fun left => textLiteral second >>= fun right =>
        if compatible first second then
          .ok (.ofBool (holds left.lexical.toList right.lexical.toList))
        else .error (.incompatibleArguments operator first second) :=
  rfl

/-- Of compatible arguments a predicate compares the lexical forms. -/
theorem predicate_of_compatible (operator : Iri) (holds : List Char → List Char → Bool)
    (fits : compatible first second = true) :
    ∃ left right, first = .literal left ∧ second = .literal right ∧
      predicate operator holds [first, second] =
        .ok (.ofBool (holds left.lexical.toList right.lexical.toList)) := by
  obtain ⟨leftPlain, rightPlain, _⟩ := compatible_iff.mp fits
  obtain ⟨left, rfl, leftPlain⟩ := Term.isPlain_iff.mp leftPlain
  obtain ⟨right, rfl, rightPlain⟩ := Term.isPlain_iff.mp rightPlain
  refine ⟨left, right, rfl, rfl, ?_⟩
  rw [predicate_eq, textLiteral_of_isPlain leftPlain, textLiteral_of_isPlain rightPlain]
  exact if_pos fits

/-- A first argument that is no text is the first fault. -/
theorem predicate_of_first (notPlain : first.isPlain = false) :
    predicate operator holds [first, second] = .error (.typeMismatch (.notText first)) := by
  rw [predicate_eq, textLiteral_of_not_isPlain notPlain]
  rfl

/-- Behind a text the second argument may be no text. -/
theorem predicate_of_second (plain : first.isPlain = true) (notPlain : second.isPlain = false) :
    predicate operator holds [first, second] = .error (.typeMismatch (.notText second)) := by
  obtain ⟨left, rfl, leftPlain⟩ := Term.isPlain_iff.mp plain
  rw [predicate_eq, textLiteral_of_isPlain leftPlain, textLiteral_of_not_isPlain notPlain]
  rfl

/-- Texts may have languages that do not go together. -/
theorem predicate_of_languages (plain : first.isPlain = true) (secondPlain : second.isPlain = true)
    (unfit : compatible first second = false) :
    predicate operator holds [first, second] =
      .error (.incompatibleArguments operator first second) := by
  obtain ⟨left, rfl, leftPlain⟩ := Term.isPlain_iff.mp plain
  obtain ⟨right, rfl, rightPlain⟩ := Term.isPlain_iff.mp secondPlain
  rw [predicate_eq, textLiteral_of_isPlain leftPlain, textLiteral_of_isPlain rightPlain]
  exact if_neg (Bool.eq_false_iff.mp unfit)

/-- A predicate succeeds on no other arguments. -/
theorem compatible_of_predicate {result : Term}
    (succeeds : predicate operator holds [first, second] = .ok result) :
    compatible first second = true := by
  rw [predicate_eq] at succeeds
  obtain ⟨left, _, succeeds⟩ := bind_eq_ok.mp succeeds
  obtain ⟨right, _, succeeds⟩ := bind_eq_ok.mp succeeds
  split at succeeds
  · assumption
  · cases succeeds

end Strings

/-! ### The standard functions -/

namespace TextRelation

/-- The predicates are registered under their names. -/
theorem standard_apply (relation : TextRelation) (first second : Term) :
    Registry.standard.apply (.iri relation.name) [first, second] =
      Strings.predicate relation.name relation.decides [first, second] := by
  cases relation <;> rfl

end TextRelation

/-- **The predicates on texts decide their relations** on compatible arguments, and fail on others
with the first fault of these. -/
theorem Registry.standard_text_predicate (relation : TextRelation) (first second : Term) :
    let applied := Registry.standard.apply (.iri relation.name) [first, second]
    ((∃ result, applied = .ok result) ↔ Strings.compatible first second = true) ∧
    (∀ result, applied = .ok result →
      ∃ left right truth, first = .literal left ∧ second = .literal right ∧
        result = .ofBool truth ∧ (truth = true ↔ relation.Holds left.lexical right.lexical)) ∧
    (first.isPlain = false →
      applied = .error (.typeMismatch (.notText first)) ∧
        (Mismatch.notText first).found = first.text) ∧
    (first.isPlain = true → second.isPlain = false →
      applied = .error (.typeMismatch (.notText second)) ∧
        (Mismatch.notText second).found = second.text) ∧
    (first.isPlain = true → second.isPlain = true → Strings.compatible first second = false →
      applied = .error (.incompatibleArguments relation.name first second) ∧
        (EvalError.incompatibleArguments relation.name first second).message =
          "Incompatible arguments for " ++ relation.name.text ++ ": " ++ first.text ++ " and " ++
            second.text) ∧
    (Strings.compatible first second = true ↔
      first.isPlain = true ∧ second.isPlain = true ∧
        (first.language? = none ∧ second.language? = none ∨
          (∃ tag, first.language? = some tag ∧ second.language? = some tag) ∨
          (∃ tag, first.language? = some tag) ∧ second.language? = none)) := by
  intro applied
  have asPredicate : applied = Strings.predicate relation.name relation.decides [first, second] :=
    TextRelation.standard_apply relation first second
  rw [asPredicate]
  refine ⟨⟨fun ⟨_, succeeds⟩ => Strings.compatible_of_predicate succeeds, fun fits => ?_⟩,
    fun result succeeds => ?_, fun notPlain => ⟨Strings.predicate_of_first notPlain, rfl⟩,
    fun plain notPlain => ⟨Strings.predicate_of_second plain notPlain, rfl⟩,
    fun plain secondPlain unfit => ⟨Strings.predicate_of_languages plain secondPlain unfit, rfl⟩,
    Strings.compatible_iff⟩
  · obtain ⟨_, _, _, _, gives⟩ :=
      Strings.predicate_of_compatible relation.name relation.decides fits
    exact ⟨_, gives⟩
  · have fits := Strings.compatible_of_predicate succeeds
    obtain ⟨left, right, rfl, rfl, gives⟩ :=
      Strings.predicate_of_compatible relation.name relation.decides fits
    rw [gives] at succeeds
    cases succeeds
    exact ⟨left, right, _, rfl, rfl, rfl, TextRelation.decides_iff⟩

/-- A text found in a tagged one, and the three faults. -/
theorem Registry.standard_text_predicate_faults :
    let tagged : Term := .literal (.tagged "foobar" "EN")
    let plain : Term := .literal (.simple "oba")
    (Registry.standard.apply (.iri Fn.contains) [tagged, plain] = .ok (.ofBool true) ∧
      TextRelation.anywhere.Holds "foobar" "oba") ∧
    ((Term.blank ⟨"b"⟩).isPlain = false ∧
      Registry.standard.apply (.iri Fn.startsWith) [.blank ⟨"b"⟩, .var ⟨"x"⟩] =
        .error (.typeMismatch (.notText (.blank ⟨"b"⟩)))) ∧
    (plain.isPlain = true ∧ (Term.ofInt 12).isPlain = false ∧
      Registry.standard.apply (.iri Fn.endsWith) [plain, .ofInt 12] =
        .error (.typeMismatch (.notText (.ofInt 12)))) ∧
    (tagged.isPlain = true ∧ Strings.compatible plain tagged = false ∧
      Registry.standard.apply (.iri Fn.contains) [plain, tagged] =
        .error (.incompatibleArguments Fn.contains plain tagged)) := by
  intro tagged plain
  have found : Registry.standard.apply (.iri Fn.contains) [tagged, plain] = .ok (.ofBool true) :=
    rfl
  obtain ⟨_, ofResult, _⟩ := standard_text_predicate .anywhere tagged plain
  obtain ⟨left, right, truth, isLeft, isRight, same, holds⟩ := ofResult _ found
  obtain rfl := Term.literal.inj isLeft
  obtain rfl := Term.literal.inj isRight
  obtain ⟨_, _, ofFirst, _⟩ := standard_text_predicate .beginning (.blank ⟨"b"⟩) (.var ⟨"x"⟩)
  obtain ⟨_, _, _, ofSecond, _⟩ := standard_text_predicate .ending plain (.ofInt 12)
  obtain ⟨_, _, _, _, ofLanguages, _⟩ := standard_text_predicate .anywhere plain tagged
  exact ⟨⟨found, holds.mp (Term.ofBool_eq_true same.symm)⟩, ⟨rfl, (ofFirst rfl).1⟩,
    ⟨rfl, rfl, (ofSecond rfl rfl).1⟩, ⟨rfl, rfl, (ofLanguages rfl rfl rfl).1⟩⟩

end QueryAlgebra
