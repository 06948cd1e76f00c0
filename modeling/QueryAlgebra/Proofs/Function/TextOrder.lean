/-
**Predicates on texts as orders.**

What stands in a part of a text stands in the text, and two texts that stand in one another are the
same. From one argument to the next a language is kept or dropped and never taken up
(`compatible_iff_forall`), so compatible arguments stay compatible when they are passed on. On plain
literals each predicate is therefore a preorder that tells texts and languages apart
(`relates_preorder`).
-/
import Mathlib.Data.List.Infix
import QueryAlgebra.Proofs.Function.TextPredicates

namespace QueryAlgebra

namespace TextRelation

variable {relation : TextRelation} {text part other : String}

/-! ### The order of texts -/

/-- A text at the beginning or at the end of another stands in it. -/
theorem Holds.isInfix (holds : relation.Holds text part) : part.toList <:+: text.toList := by
  cases relation with
  | beginning => exact (holds_beginning.mp holds).isInfix
  | ending => exact (holds_ending.mp holds).isInfix
  | anywhere => exact holds_anywhere.mp holds

theorem holds_self (relation : TextRelation) (text : String) : relation.Holds text text := by
  cases relation with
  | beginning => exact holds_beginning.mpr List.prefix_rfl
  | ending => exact holds_ending.mpr List.suffix_rfl
  | anywhere => exact holds_anywhere.mpr List.infix_rfl

/-- What stands in a part stands in the text. -/
theorem Holds.trans (outer : relation.Holds text part) (inner : relation.Holds part other) :
    relation.Holds text other := by
  cases relation with
  | beginning =>
    exact holds_beginning.mpr ((holds_beginning.mp inner).trans (holds_beginning.mp outer))
  | ending => exact holds_ending.mpr ((holds_ending.mp inner).trans (holds_ending.mp outer))
  | anywhere =>
    exact holds_anywhere.mpr ((holds_anywhere.mp inner).trans (holds_anywhere.mp outer))

/-- Texts that stand in one another are the same. -/
theorem Holds.antisymm (holds : relation.Holds text part) (reverse : relation.Holds part text) :
    text = part :=
  String.toList_inj.mp (List.infix_antisymm reverse.isInfix holds.isInfix)

end TextRelation

namespace Strings

variable {first second third : Term}

/-! ### Arguments passed on -/

/-- Compatible arguments pass on no other languages than they have. -/
theorem compatible_iff_forall :
    compatible first second = true ↔
      first.isPlain = true ∧ second.isPlain = true ∧
        ∀ tag, second.language? = some tag → first.language? = some tag := by
  rw [compatible_iff]
  refine and_congr_right fun _ => and_congr_right fun _ => ?_
  cases first.language? with
  | none => cases second.language? <;> simp
  | some tag =>
    cases second.language? with
    | none => simp
    | some other => simpa using eq_comm

/-- Arguments that are compatible with a third in between are compatible. -/
theorem compatible_trans (outer : compatible first second = true)
    (inner : compatible second third = true) : compatible first third = true := by
  obtain ⟨firstPlain, _, fromSecond⟩ := compatible_iff_forall.mp outer
  obtain ⟨_, thirdPlain, fromThird⟩ := compatible_iff_forall.mp inner
  exact compatible_iff_forall.mpr
    ⟨firstPlain, thirdPlain, fun tag tagged => fromSecond tag (fromThird tag tagged)⟩

theorem compatible_self : compatible first first = true ↔ first.isPlain = true := by
  rw [compatible_iff_forall]
  exact ⟨And.left, fun plain => ⟨plain, plain, fun _ tagged => tagged⟩⟩

/-- Arguments that are compatible in both orders have the same language. -/
theorem language?_eq_of_compatible (fits : compatible first second = true)
    (reverse : compatible second first = true) : first.language? = second.language? := by
  obtain ⟨_, _, fromSecond⟩ := compatible_iff_forall.mp fits
  obtain ⟨_, _, fromFirst⟩ := compatible_iff_forall.mp reverse
  exact Option.ext fun tag => ⟨fromFirst tag, fromSecond tag⟩

end Strings

namespace TextRelation

/-! ### What the functions find -/

variable {relation : TextRelation} {first second : Term}

/-- Whether the function of a relation finds a text in another. -/
def Relates (relation : TextRelation) (first second : Term) : Prop :=
  Registry.standard.apply (.iri relation.name) [first, second] = .ok (.ofBool true)

/-- **A text is found** where it stands and the arguments are compatible. -/
theorem relates_iff :
    relation.Relates first second ↔
      Strings.compatible first second = true ∧
        ∃ left right, first = .literal left ∧ second = .literal right ∧
          relation.Holds left.lexical right.lexical := by
  rw [Relates, standard_apply]
  constructor
  · intro found
    have fits := Strings.compatible_of_predicate found
    obtain ⟨left, right, rfl, rfl, gives⟩ :=
      Strings.predicate_of_compatible relation.name relation.decides fits
    rw [found, Except.ok.injEq] at gives
    exact ⟨fits, left, right, rfl, rfl, decides_iff.mp (Term.ofBool_eq_true gives.symm)⟩
  · rintro ⟨fits, left, right, rfl, rfl, holds⟩
    obtain ⟨_, _, ⟨⟩, ⟨⟩, gives⟩ :=
      Strings.predicate_of_compatible relation.name relation.decides fits
    rw [gives, decides_iff.mpr holds]

/-- **The predicates on texts are preorders** on plain literals that tell texts and languages apart,
and what is found at the beginning or at the end is found anywhere. -/
theorem relates_preorder :
    (∀ (relation : TextRelation) (first second third : Term), relation.Relates first second →
      relation.Relates second third →
      relation.Relates first third ∧ Strings.compatible first third = true) ∧
    (∀ (relation : TextRelation) (term : Term),
      relation.Relates term term ↔ term.isPlain = true) ∧
    (∀ first second : Term, beginning.Relates first second ∨ ending.Relates first second →
      anywhere.Relates first second) ∧
    ∀ (relation : TextRelation) (first second : Term), relation.Relates first second →
      relation.Relates second first →
      ∃ left right, first = .literal left ∧ second = .literal right ∧
        left.lexical = right.lexical ∧ left.language? = right.language? := by
  refine ⟨fun relation first second third outer inner => ?_, fun relation term => ?_,
    fun first second found => ?_, fun relation first second found reverse => ?_⟩
  · obtain ⟨outerFits, left, middle, rfl, rfl, outerHolds⟩ := relates_iff.mp outer
    obtain ⟨innerFits, _, right, ⟨⟩, rfl, innerHolds⟩ := relates_iff.mp inner
    have fits := Strings.compatible_trans outerFits innerFits
    exact ⟨relates_iff.mpr ⟨fits, left, right, rfl, rfl, outerHolds.trans innerHolds⟩, fits⟩
  · constructor
    · exact fun found => Strings.compatible_self.mp (relates_iff.mp found).1
    · intro plain
      obtain ⟨literal, rfl, _⟩ := Term.isPlain_iff.mp plain
      exact relates_iff.mpr
        ⟨Strings.compatible_self.mpr plain, literal, literal, rfl, rfl, holds_self _ _⟩
  · have anywhereOf : ∀ {relation : TextRelation}, relation.Relates first second →
        anywhere.Relates first second := fun related =>
      have ⟨fits, left, right, isLeft, isRight, holds⟩ := relates_iff.mp related
      relates_iff.mpr ⟨fits, left, right, isLeft, isRight, holds_anywhere.mpr holds.isInfix⟩
    exact found.elim anywhereOf anywhereOf
  · obtain ⟨fits, left, right, rfl, rfl, holds⟩ := relates_iff.mp found
    obtain ⟨reverseFits, _, _, ⟨⟩, ⟨⟩, reverseHolds⟩ := relates_iff.mp reverse
    exact ⟨left, right, rfl, rfl, holds.antisymm reverseHolds,
      Strings.language?_eq_of_compatible fits reverseFits⟩

/-- A text in a language, one without that stands at its beginning, and a part of that; and two
literals of one text. -/
theorem relates_preorder_chain :
    let text : Term := .literal (.tagged "foobar" "en")
    let part : Term := .literal (.typed "foo" Xsd.string)
    let again : Term := .literal (.simple "foo")
    let first : Term := .literal (.simple "f")
    (beginning.Relates text part ∧ beginning.Relates part first ∧ beginning.Relates text first) ∧
      (part.isPlain = true ∧ anywhere.Relates part part) ∧
      anywhere.Relates text part ∧
      (beginning.Relates part again ∧ beginning.Relates again part ∧
        ∃ left right, part = .literal left ∧ again = .literal right ∧
          left.lexical = right.lexical ∧ left.language? = right.language?) := by
  intro text part again first
  have outer : beginning.Relates text part := rfl
  have inner : beginning.Relates part first := rfl
  have there : beginning.Relates part again := rfl
  have back : beginning.Relates again part := rfl
  obtain ⟨trans, refl, ofBeginning, antisymm⟩ := relates_preorder
  exact ⟨⟨outer, inner, (trans _ _ _ _ outer inner).1⟩, ⟨rfl, (refl _ _).mpr rfl⟩,
    ofBeginning _ _ (.inl outer), there, back, antisymm _ _ _ there back⟩

end TextRelation

end QueryAlgebra
