/-
**The texts that are accepted as absolute IRIs.**

The grammar of queries has a production for an IRI between angle brackets: no character up to the space
and no delimiter stands there (`Iri.IsReference`). A text is accepted when it has a scheme, a colon and
a rest, and no white space and no delimiter in it (`Iri.parse_ok_iff`). White space is not all that
comes before the space: there are control characters that pass, and they are the only ones that keep an
accepted text from being what the production generates (`Iri.isReferenceChar_iff_of_allowed`).
-/
import QueryAlgebra.Proofs.Term.Display

namespace QueryAlgebra

open Text

namespace Iri

/-- The texts with a scheme, a colon and a rest; a scheme is a letter followed by letters, digits, plus
signs, hyphens and points. -/
def IsSchemed (text : List Char) : Prop :=
  ∃ first scheme rest, text = (first :: scheme) ++ ':' :: rest ∧ first.isAlpha = true ∧
    ∀ c ∈ scheme, c.isAlphanum = true ∨ c = '+' ∨ c = '-' ∨ c = '.'

/-- Whether a character may stand between the brackets: it lies above the space and is no delimiter. -/
def IsReferenceChar (c : Char) : Prop := 0x20 < c.toNat ∧ c ∉ delimiters

/-- The texts that the production for an IRI between angle brackets generates. -/
def IsReference (text : List Char) : Prop :=
  ∃ body, text = '<' :: body ++ ['>'] ∧ ∀ c ∈ body, IsReferenceChar c

/-- The control characters below the space that are no white space. -/
def IsNonblankControl (c : Char) : Prop := c.toNat ≤ 0x08 ∨ 0x0E ≤ c.toNat ∧ c.toNat ≤ 0x1F

instance (c : Char) : Decidable (IsReferenceChar c) :=
  inferInstanceAs (Decidable (_ ∧ _))

instance (c : Char) : Decidable (IsNonblankControl c) :=
  inferInstanceAs (Decidable (_ ∨ _ ∧ _))

/-! ### Schemes -/

theorem isLetter_eq_isAlpha (c : Char) : isLetter c = c.isAlpha := by
  have lower : ('a' ≤ c && c ≤ 'z') = c.isLower := rfl
  have upper : ('A' ≤ c && c ≤ 'Z') = c.isUpper := (Bool.decide_and _ _).symm
  rw [isLetter, lower, upper]
  exact Bool.or_comm _ _

theorem isSchemeChar_iff {c : Char} :
    isSchemeChar c = true ↔ c.isAlphanum = true ∨ c = '+' ∨ c = '-' ∨ c = '.' := by
  have alphanumeric : (isLetter c || isDigit c) = c.isAlphanum :=
    congrArg (· || isDigit c) (isLetter_eq_isAlpha c)
  simp only [isSchemeChar, alphanumeric, Bool.or_eq_true, beq_iff_eq, or_assoc]

/-- A colon belongs to no scheme. -/
theorem ne_colon_of_isSchemeChar {c : Char} (inScheme : isSchemeChar c = true) : (c != ':') = true := by
  rw [bne_iff_ne]
  rintro rfl
  exact absurd inScheme (by decide)

/-- **A text begins with a scheme** when a first colon can be found with one before it. -/
theorem hasScheme_iff {text : List Char} : hasScheme text = true ↔ IsSchemed text := by
  constructor
  · intro found
    unfold hasScheme at found
    cases behind : text.dropWhile (· != ':') with
    | nil =>
      rw [behind] at found
      cases found
    | cons colon rest =>
      cases before : text.takeWhile (· != ':') with
      | nil =>
        rw [behind, before] at found
        cases found
      | cons first scheme =>
        rw [behind, before] at found
        simp only [Bool.and_eq_true, List.all_eq_true] at found
        obtain ⟨⟨letter, _⟩, inScheme⟩ := found
        have isColon : colon = ':' := by
          have stops := List.head?_dropWhile_not (· != ':') text
          rw [behind] at stops
          simpa using stops
        refine ⟨first, scheme, rest, ?_, isLetter_eq_isAlpha first ▸ letter,
          fun c member => isSchemeChar_iff.mp (inScheme c member)⟩
        subst isColon
        rw [← before, ← behind, List.takeWhile_append_dropWhile]
  · rintro ⟨first, scheme, rest, rfl, letter, inScheme⟩
    have firstInScheme : isSchemeChar first = true :=
      isSchemeChar_iff.mpr (.inl (by rw [Char.isAlphanum, letter, Bool.true_or]))
    have allInScheme : ∀ c ∈ first :: scheme, isSchemeChar c = true :=
      List.forall_mem_cons.mpr
        ⟨firstInScheme, fun c member => isSchemeChar_iff.mpr (inScheme c member)⟩
    have outside : ∀ c, (':' :: rest).head? = some c → (c != ':') = false := by
      rintro _ ⟨⟩
      rfl
    obtain ⟨before, behind⟩ := takeWhile_stretch
      (fun c member => ne_colon_of_isSchemeChar (allInScheme c member)) outside
    unfold hasScheme
    rw [before, behind]
    simp only [Bool.and_eq_true, List.all_eq_true]
    exact ⟨⟨(isLetter_eq_isAlpha first).trans letter, firstInScheme⟩,
      (List.forall_mem_cons.mp allInScheme).2⟩

/-! ### Characters -/

theorem isForbidden_eq_false_iff {c : Char} :
    isForbidden c = false ↔ isBlank c = false ∧ c ∉ delimiters := by
  rw [isForbidden, Bool.or_eq_false_iff, ← Bool.not_eq_true (delimiters.contains c), List.contains_iff_mem]

/-- What is no white space up to the space is a control character. -/
theorem isBlank_eq_false_iff_of_le {c : Char} (low : c.toNat ≤ 0x20) :
    isBlank c = false ↔ IsNonblankControl c := by
  simp only [isBlank, IsNonblankControl, Bool.or_eq_false_iff, Bool.and_eq_false_iff,
    decide_eq_false_iff_not, beq_eq_false_iff_ne]
  omega

/-- **The characters that pass** the check and may not stand between the brackets are control
characters. -/
theorem isReferenceChar_iff_of_allowed {c : Char} (allowed : isForbidden c = false) :
    IsReferenceChar c ↔ ¬IsNonblankControl c := by
  obtain ⟨notBlank, noDelimiter⟩ := isForbidden_eq_false_iff.mp allowed
  constructor
  · rintro ⟨high, _⟩ control
    unfold IsNonblankControl at control
    omega
  · intro noControl
    refine ⟨Nat.lt_of_not_le fun low => noControl ?_, noDelimiter⟩
    exact (isBlank_eq_false_iff_of_le low).mp notBlank

/-! ### Accepted texts -/

theorem parse_ok_iff {text : String} :
    (∃ iri, parse text = .ok iri) ↔
      IsSchemed text.toList ∧ ∀ c ∈ text.toList, isBlank c = false ∧ c ∉ delimiters := by
  simp only [parse_eq_ok_iff, exists_eq_left, hasScheme_iff, isForbidden_eq_false_iff]

theorem isReference_display_iff {iri : Iri} :
    IsReference iri.display ↔ ∀ c ∈ iri.text.toList, IsReferenceChar c := by
  constructor
  · rintro ⟨body, same, clean⟩
    have isBody : iri.text.toList = body := List.append_cancel_right (List.cons.inj same).2
    rwa [isBody]
  · exact fun clean => ⟨iri.text.toList, rfl, clean⟩

/-- **The accepted texts** are those with a scheme, a colon and a rest, and with no white space and no
delimiter in them. Between angle brackets such a text is what the grammar of queries takes for an IRI
exactly when it has no control character either, and every text that is schemed and has only characters
that may stand there, white space apart, is accepted. -/
theorem parse_references (text : String) :
    ((∃ iri, parse text = .ok iri) ↔
      IsSchemed text.toList ∧ ∀ c ∈ text.toList, isBlank c = false ∧ c ∉ delimiters) ∧
    (∀ iri, parse text = .ok iri →
      iri.text = text ∧ (∀ c ∈ text.toList, c.toNat ≤ 0x20 → IsNonblankControl c) ∧
      (IsReference iri.display ↔ ∀ c ∈ text.toList, ¬IsNonblankControl c)) ∧
    (IsSchemed text.toList → (∀ c ∈ text.toList, IsReferenceChar c ∧ isBlank c = false) →
      ∃ iri, parse text = .ok iri) := by
  refine ⟨parse_ok_iff, fun iri accepted => ?_, fun schemed clean => parse_ok_iff.mpr ⟨schemed, ?_⟩⟩
  · obtain ⟨rfl, _, allowed⟩ := parse_eq_ok_iff.mp accepted
    refine ⟨rfl, fun c member low => ?_, ?_⟩
    · exact (isBlank_eq_false_iff_of_le low).mp (isForbidden_eq_false_iff.mp (allowed c member)).1
    · rw [isReference_display_iff]
      exact forall₂_congr fun c member => isReferenceChar_iff_of_allowed (allowed c member)
  · exact fun c member => ⟨(clean c member).2, (clean c member).1.2⟩

/-- The scheme has every kind of character, and nothing stands behind the colon. -/
theorem parse_references_empty_rest :
    IsSchemed "x-1+.:".toList ∧ (∃ iri, parse "x-1+.:" = .ok iri) ∧
      IsReference (display ⟨"x-1+.:"⟩) := by
  have inScheme : "-1+.".toList.all isSchemeChar = true := by decide
  have schemed : IsSchemed "x-1+.:".toList := ⟨'x', "-1+.".toList, [], rfl, rfl, fun c member =>
    isSchemeChar_iff.mp (List.all_eq_true.mp inScheme c member)⟩
  have allClean : ("x-1+.:".toList.all fun c =>
      decide ((IsReferenceChar c ∧ isBlank c = false) ∧ ¬IsNonblankControl c)) = true := by
    decide
  have clean := fun c member => of_decide_eq_true (List.all_eq_true.mp allClean c member)
  have absolute : IsAbsolute ⟨"x-1+.:"⟩ := by decide
  obtain ⟨_, rendered, accepts⟩ := parse_references "x-1+.:"
  obtain ⟨_, _, isReference_iff⟩ := rendered _ absolute
  exact ⟨schemed, accepts schemed fun c member => (clean c member).1,
    isReference_iff.mpr fun c member => (clean c member).2⟩

/-- A control character is accepted, and the text is no IRI of the grammar then. -/
theorem control_accepted :
    parse "http://example.org/\x01" = .ok ⟨"http://example.org/\x01"⟩ ∧
      '\x01' ∈ "http://example.org/\x01".toList ∧ '\x01'.toNat ≤ 0x20 ∧
      ¬IsReference (display ⟨"http://example.org/\x01"⟩) := by
  have absolute : IsAbsolute ⟨"http://example.org/\x01"⟩ := by decide
  have member : '\x01' ∈ "http://example.org/\x01".toList := by decide
  refine ⟨absolute, member, by decide, fun isReference => ?_⟩
  exact absurd (isReference_display_iff.mp isReference '\x01' member) (by decide)

end Iri

end QueryAlgebra
