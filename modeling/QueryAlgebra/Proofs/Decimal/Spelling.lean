/-
**Spellings of decimal numerals.**

The reader of decimals takes more than numerals: behind the first digit separators may stand
anywhere (`DecimalNumeral.IsSpelled`). They do not count there (`readFrom_withoutSeparators`), and
in front of the first digit they are refused (`readFrom_eq_none_of_hasEarlySeparator`). Nothing else
is read (`isSpelled_of_ofPlainText?`).
-/
import QueryAlgebra.Proofs.Decimal.Reading

namespace QueryAlgebra

open Text

namespace Decimal

/-- A text without the separators in it. -/
def withoutSeparators (text : List Char) : List Char := text.filter (· != '_')

/-- Whether a separator stands in front of the first digit of a text. -/
def HasEarlySeparator (text : List Char) : Prop := '_' ∈ text.takeWhile (!isDigit ·)

instance (text : List Char) : Decidable (HasEarlySeparator text) :=
  inferInstanceAs (Decidable (_ ∈ _))

variable {negative pointSeen digitSeen : Bool} {mantissa scale : Nat} {text : List Char}

theorem withoutSeparators_cons {c : Char} (other : c ≠ '_') (rest : List Char) :
    withoutSeparators (c :: rest) = c :: withoutSeparators rest :=
  List.filter_cons_of_pos (by simpa using other)

theorem all_withoutSeparators (text : List Char) :
    (withoutSeparators text).all isDigitOrSeparator = text.all isDigitOrSeparator := by
  rw [withoutSeparators, List.all_filter]
  refine congrArg text.all (funext fun c => ?_)
  by_cases separator : c = '_'
  · subst separator
    rfl
  · simp [separator]

/-- **Behind a digit separators do not count.** -/
theorem readFrom_withoutSeparators :
    readFrom negative mantissa scale pointSeen true (withoutSeparators text) =
      readFrom negative mantissa scale pointSeen true text := by
  induction text generalizing mantissa scale pointSeen with
  | nil => rfl
  | cons c rest inRest =>
    by_cases separator : c = '_'
    · subst separator
      exact inRest
    · rw [withoutSeparators_cons separator, readFrom, readFrom, all_withoutSeparators]
      simp only [inRest]

theorem hasEarlySeparator_cons {c : Char} {rest : List Char} :
    HasEarlySeparator (c :: rest) ↔ isDigit c = false ∧ (c = '_' ∨ HasEarlySeparator rest) := by
  cases digit : isDigit c with
  | true => simp [HasEarlySeparator, digit]
  | false => simp [HasEarlySeparator, digit, eq_comm]

/-- **In front of the first digit no separator may stand**, and those behind it do not count. -/
theorem readFrom_eq_none_of_hasEarlySeparator (early : HasEarlySeparator text) :
    readFrom negative mantissa scale pointSeen false text = none := by
  induction text generalizing pointSeen with
  | nil => cases early
  | cons c rest inRest =>
    obtain ⟨noDigit, here | behind⟩ := hasEarlySeparator_cons.mp early
    · subst here
      cases pointSeen <;> rfl
    · simp [readFrom, noDigit, inRest behind]

theorem readFrom_withoutSeparators_first (fine : ¬HasEarlySeparator text) :
    readFrom negative mantissa scale pointSeen false (withoutSeparators text) =
      readFrom negative mantissa scale pointSeen false text := by
  induction text generalizing pointSeen with
  | nil => rfl
  | cons c rest inRest =>
    rw [hasEarlySeparator_cons, not_and, not_or] at fine
    cases digit : isDigit c with
    | true =>
      have other : c ≠ '_' := by
        rintro rfl
        cases digit
      rw [withoutSeparators_cons other, readFrom, readFrom, all_withoutSeparators]
      simp only [digit, if_true, readFrom_withoutSeparators]
    | false =>
      obtain ⟨other, later⟩ := fine digit
      rw [withoutSeparators_cons other, readFrom, readFrom]
      simp only [digit, Bool.and_false, Bool.false_eq_true, if_false, inRest later]

/-! ### Signs -/

theorem ofPlainText?_cons {c : Char} (noMinus : c ≠ '-') (noPlus : c ≠ '+') (rest : List Char) :
    ofPlainText? (c :: rest) = readFrom false 0 0 false false (c :: rest) := by
  unfold ofPlainText?
  split
  · rename_i same
    exact absurd (List.cons.inj same).1 noMinus
  · rename_i same
    exact absurd (List.cons.inj same).1 noPlus
  · rfl

theorem ofPlainText?_withoutSeparators (fine : ¬HasEarlySeparator text) :
    ofPlainText? (withoutSeparators text) = ofPlainText? text := by
  cases text with
  | nil => rfl
  | cons c rest =>
    have other : c ≠ '_' := by
      rintro rfl
      exact fine (hasEarlySeparator_cons.mpr ⟨rfl, .inl rfl⟩)
    by_cases minus : c = '-'
    · subst minus
      exact readFrom_withoutSeparators_first fun early =>
        fine (hasEarlySeparator_cons.mpr ⟨rfl, .inr early⟩)
    by_cases plus : c = '+'
    · subst plus
      exact readFrom_withoutSeparators_first fun early =>
        fine (hasEarlySeparator_cons.mpr ⟨rfl, .inr early⟩)
    rw [withoutSeparators_cons other, ofPlainText?_cons minus plus, ofPlainText?_cons minus plus,
      ← withoutSeparators_cons other]
    exact readFrom_withoutSeparators_first fine

theorem not_hasEarlySeparator_of_ofPlainText? {decimal : Decimal}
    (read : ofPlainText? text = some decimal) : ¬HasEarlySeparator text := by
  intro early
  cases text with
  | nil => cases early
  | cons c rest =>
    obtain ⟨noDigit, cause⟩ := hasEarlySeparator_cons.mp early
    by_cases minus : c = '-'
    · subst minus
      rcases cause with same | behind
      · cases same
      · exact Option.some_ne_none _ (read.symm.trans (readFrom_eq_none_of_hasEarlySeparator behind))
    by_cases plus : c = '+'
    · subst plus
      rcases cause with same | behind
      · cases same
      · exact Option.some_ne_none _ (read.symm.trans (readFrom_eq_none_of_hasEarlySeparator behind))
    rw [ofPlainText?_cons minus plus, readFrom_eq_none_of_hasEarlySeparator early] at read
    cases read

/-! ### The grammar -/

variable {decimal : Decimal}

/-- Behind the point only digits are read. -/
theorem areDigits_of_readFrom (noSeparator : '_' ∉ text)
    (read : readFrom negative mantissa scale true digitSeen text = some decimal) :
    (∀ c ∈ text, isDigit c = true) ∧ (digitSeen = true ∨ text ≠ []) := by
  induction text generalizing mantissa scale digitSeen with
  | nil =>
    rw [readFrom] at read
    split at read
    · rename_i seen
      exact ⟨List.forall_mem_nil _, .inl seen⟩
    · cases read
  | cons c rest inRest =>
    rw [List.mem_cons, not_or] at noSeparator
    refine ⟨List.forall_mem_cons.mpr ?_, .inr (List.cons_ne_nil c rest)⟩
    rw [readFrom] at read
    cases digit : isDigit c with
    | true =>
      refine ⟨rfl, ?_⟩
      simp only [digit, if_true] at read
      split_ifs at read with fits dropped
      · exact (inRest noSeparator.2 read).1
      · intro other member
        have allowed := List.all_eq_true.mp dropped other member
        rw [isDigitOrSeparator, Bool.or_eq_true, beq_iff_eq] at allowed
        exact allowed.resolve_right fun same => noSeparator.2 (same ▸ member)
    | false =>
      have other : c ≠ '_' := Ne.symm noSeparator.1
      simp [digit, other] at read

/-- What is read behind digits makes a numeral with them. -/
theorem exists_numeral_of_digits (sign : Sign) {front : List Char}
    (areDigits : ∀ c ∈ front, isDigit c = true) (seen : digitSeen = !front.isEmpty)
    (noSeparator : '_' ∉ text)
    (read : readFrom negative mantissa scale false digitSeen text = some decimal) :
    ∃ numeral : DecimalNumeral, numeral.sign = sign ∧ numeral.unsigned = front ++ text := by
  induction text generalizing front mantissa digitSeen with
  | nil =>
    rw [readFrom] at read
    split at read
    · rename_i someDigit
      have present : front ≠ [] := by simpa [seen] using someDigit
      exact ⟨⟨sign, front, none, by simpa using areDigits, by simpa using present⟩, rfl, rfl⟩
    · cases read
  | cons c rest inRest =>
    rw [List.mem_cons, not_or] at noSeparator
    rw [readFrom] at read
    cases digit : isDigit c with
    | true =>
      simp only [digit, if_true, Bool.false_eq_true, if_false] at read
      split_ifs at read with fits
      have inFront : ∀ other ∈ front ++ [c], isDigit other = true :=
        List.forall_mem_append.mpr ⟨areDigits, List.forall_mem_singleton.mpr digit⟩
      obtain ⟨numeral, isSign, same⟩ := inRest inFront (by simp) noSeparator.2 read
      exact ⟨numeral, isSign, by rw [same, List.append_assoc, List.singleton_append]⟩
    | false =>
      by_cases point : c = '.'
      · subst point
        obtain ⟨behind, someDigit⟩ := areDigits_of_readFrom noSeparator.2 read
        have present : front ++ rest ≠ [] := by
          rw [ne_eq, List.append_eq_nil_iff, not_and_or]
          exact someDigit.imp_left fun isSeen => by simpa [seen] using isSeen
        exact ⟨⟨sign, front, some rest, List.forall_mem_append.mpr ⟨areDigits, behind⟩, present⟩,
          rfl, rfl⟩
      · have other : c ≠ '_' := Ne.symm noSeparator.1
        simp [digit, point, other] at read

/-- **A text without separators is read only if it is a numeral** behind its sign. -/
theorem exists_numeral_of_readFrom (sign : Sign) (noSeparator : '_' ∉ text)
    (read : readFrom negative 0 0 false false text = some decimal) :
    ∃ numeral : DecimalNumeral, sign.text ++ text = numeral.text := by
  obtain ⟨numeral, same, unsigned⟩ :=
    exists_numeral_of_digits sign (List.forall_mem_nil _) rfl noSeparator read
  exact ⟨numeral, by rw [DecimalNumeral.text, same, unsigned, List.nil_append]⟩

end Decimal

/-- Whether a text is a spelling of a numeral, with separators at will behind the first digit. -/
structure DecimalNumeral.IsSpelled (numeral : DecimalNumeral) (text : List Char) : Prop where
  form : Decimal.withoutSeparators text = numeral.text
  orderly : ¬Decimal.HasEarlySeparator text

namespace Decimal

variable {numeral : DecimalNumeral} {text : List Char} {decimal : Decimal}

/-- A numeral itself has no separators. -/
theorem not_mem_text (numeral : DecimalNumeral) : '_' ∉ numeral.text := by
  intro member
  rcases DecimalNumeral.mem_text member with digit | mark
  · cases digit
  · revert mark
    decide

/-- A numeral is a spelling of itself. -/
theorem isSpelled_text (numeral : DecimalNumeral) : numeral.IsSpelled numeral.text := by
  have kept : ∀ c ∈ numeral.text, (c != '_') = true := by
    rintro c member
    refine bne_iff_ne.mpr ?_
    rintro rfl
    exact not_mem_text numeral member
  exact ⟨List.filter_eq_self.mpr kept,
    fun early => not_mem_text numeral ((List.takeWhile_sublist _).mem early)⟩

theorem not_mem_withoutSeparators (text : List Char) : '_' ∉ withoutSeparators text := by
  simp [withoutSeparators]

/-- **A text is read only if it is the spelling of a numeral.** -/
theorem isSpelled_of_ofPlainText? (read : ofPlainText? text = some decimal) :
    ∃ numeral : DecimalNumeral, numeral.IsSpelled text := by
  have orderly := not_hasEarlySeparator_of_ofPlainText? read
  have noSeparator := not_mem_withoutSeparators text
  rw [← ofPlainText?_withoutSeparators orderly] at read
  suffices spelled : ∃ numeral : DecimalNumeral, withoutSeparators text = numeral.text by
    obtain ⟨numeral, form⟩ := spelled
    exact ⟨numeral, form, orderly⟩
  revert read noSeparator
  generalize withoutSeparators text = plain
  intro read noSeparator
  unfold ofPlainText? at read
  split at read
  · exact exists_numeral_of_readFrom .minus (fun member => noSeparator (.tail _ member)) read
  · exact exists_numeral_of_readFrom .plus (fun member => noSeparator (.tail _ member)) read
  · exact exists_numeral_of_readFrom .implicit noSeparator read

/-- **The spelling of a numeral that fits** is read as the decimal of the numeral. -/
theorem ofPlainText?_of_fits (spelled : numeral.IsSpelled text) (fits : numeral.Fits) :
    ofPlainText? text = some (numeral.toDecimal fits) := by
  rw [← ofPlainText?_withoutSeparators spelled.orderly, spelled.form, ofPlainText?_text,
    readFrom_unsigned fits, ofParts?_of_fits fits]

end Decimal

end QueryAlgebra
