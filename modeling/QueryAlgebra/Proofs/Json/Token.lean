/-
**Reading the tokens that are written.**

A written string is read as the token of its text (`takes_printText`) and a numeral as that of a
number (`takes_word` with `wordToken_of_numeral`). A word is over only when the next character ends
it, so what a reader makes of a text is said of every text that may follow (`Takes`).
-/
import QueryAlgebra.Json.Printer
import QueryAlgebra.Json.Reader

namespace QueryAlgebra.Json

open Text

/-! ### Words -/

/-- The characters that end a word. -/
def wordEnds : List Char := [' ', '\t', '\n', '\r', '"', '[', ']', '\x7b', '\x7d', ':', ',']

theorem mem_wordEnds_of_endsWord {c : Char} (ends : endsWord c = true) : c ∈ wordEnds := by
  simp only [endsWord, isSpace, Bool.or_eq_true, beq_iff_eq] at ends
  rcases ends with ((((rfl | rfl) | rfl) | rfl) | rfl) | marks
  · decide
  · decide
  · decide
  · decide
  · decide
  · refine Decidable.byContradiction fun absent => ?_
    simp only [wordEnds, List.mem_cons, List.not_mem_nil, or_false, not_or] at absent
    simp [mark?, absent] at marks

/-- A character of a numeral. -/
def isNumeralChar (c : Char) : Bool :=
  isDigit c || c == '-' || c == '+' || c == '.' || c == 'e' || c == 'E'

theorem endsWord_of_isNumeralChar {c : Char} (inNumeral : isNumeralChar c = true) :
    endsWord c = false := by
  have apart : ∀ other ∈ wordEnds, (!isNumeralChar other) = true := List.all_eq_true.mp (by decide)
  cases ends : endsWord c with
  | false => rfl
  | true =>
    have noNumeral := apart c (mem_wordEnds_of_endsWord ends)
    rw [inNumeral] at noNumeral
    exact absurd noNumeral Bool.false_ne_true

theorem isNumeralChar_of_isDigit {c : Char} (digit : isDigit c = true) :
    isNumeralChar c = true := by
  simp [isNumeralChar, digit]

theorem all_isDigit_of_isWholeNumeral {digits : List Char} (sound : isWholeNumeral digits = true) :
    ∀ c ∈ digits, isDigit c = true := by
  unfold isWholeNumeral at sound
  split at sound
  · cases sound
  · exact List.forall_mem_singleton.mpr rfl
  · simp only [Bool.and_eq_true, List.all_eq_true] at sound
    exact sound.2

theorem all_isDigit_of_isDigits {digits : List Char} (sound : isDigits digits = true) :
    ∀ c ∈ digits, isDigit c = true := by
  simp only [isDigits, Bool.and_eq_true, List.all_eq_true] at sound
  exact sound.2

/-- The digits of an exponent are all of it but for a sign. -/
theorem mem_exponentParts {text : List Char} {c : Char} (member : c ∈ text) :
    c = '-' ∨ c = '+' ∨ c ∈ (exponentParts text).2 := by
  unfold exponentParts
  split
  · exact (List.mem_cons.mp member).imp_right .inr
  · exact .inr (List.mem_cons.mp member)
  · exact .inr (.inr member)

/-- A character of a text stands before the first mark, is it, or stands after it. -/
theorem mem_divided {text : List Char} {c : Char} (beforeMark : Char → Bool) (member : c ∈ text) :
    c ∈ text.takeWhile beforeMark ∨ beforeMark c = false ∨
      c ∈ (text.dropWhile beforeMark).drop 1 := by
  induction text with
  | nil => cases member
  | cons first rest inRest =>
    cases before : beforeMark first with
    | false =>
      rw [List.dropWhile_cons_of_neg (by simp [before])]
      rcases List.mem_cons.mp member with rfl | member
      · exact .inr (.inl before)
      · exact .inr (.inr member)
    | true =>
      rw [List.takeWhile_cons_of_pos before, List.dropWhile_cons_of_pos before, List.mem_cons]
      rcases List.mem_cons.mp member with rfl | member
      · exact .inl (.inl rfl)
      · exact (inRest member).imp_left .inr

/-- What follows a mark is not empty only where there is a mark. -/
theorem isEmpty_of_mem_drop {text : List Char} {c : Char} (member : c ∈ text.drop 1) :
    text.isEmpty = false := by
  cases text with
  | nil => cases member
  | cons first rest => rfl

/-- A character of a word is the sign in front of it or stands after the sign. -/
theorem mem_unsigned {word : List Char} {c : Char} (member : c ∈ word) :
    c = '-' ∨ c ∈ (if word.head? = some '-' then word.drop 1 else word) := by
  cases word with
  | nil => cases member
  | cons first rest =>
    by_cases signed : first = '-'
    · rw [signed] at member ⊢
      exact List.mem_cons.mp member
    · rw [if_neg (by simp [signed])]
      exact .inr member

/-- What a word is made of: its parts and the characters that stand between them. -/
theorem mem_divideNumeral {word : List Char} {c : Char} (member : c ∈ word) :
    c ∈ (divideNumeral word).whole ∨ (∃ digits ∈ (divideNumeral word).fraction, c ∈ digits) ∨
      (∃ exponent ∈ (divideNumeral word).exponent, c ∈ exponent.2) ∨
      c ∈ ['-', '+', '.', 'e', 'E'] := by
  simp only [divideNumeral]
  have signOrUnsigned := mem_unsigned member
  generalize (if word.head? = some '-' then word.drop 1 else word) = unsigned at signOrUnsigned ⊢
  rcases signOrUnsigned with rfl | member
  · simp
  rcases mem_divided (fun c => !(c == 'e' || c == 'E')) member with inBase | isMark | inExponent
  · rcases mem_divided (· != '.') inBase with inWhole | isPoint | inFraction
    · exact .inl inWhole
    · have isPoint : c = '.' := by simpa using isPoint
      simp [isPoint]
    · rw [isEmpty_of_mem_drop inFraction]
      exact .inr (.inl ⟨_, rfl, inFraction⟩)
  · have isMark : c = 'e' ∨ c = 'E' := by
      simpa [Decidable.or_iff_not_imp_left] using isMark
    rcases isMark with rfl | rfl <;> simp
  · rw [isEmpty_of_mem_drop inExponent]
    rcases mem_exponentParts inExponent with rfl | rfl | inDigits
    · simp
    · simp
    · exact .inr (.inr (.inl ⟨_, rfl, inDigits⟩))

/-- A numeral has no character that ends words. -/
theorem isNumeralChar_of_mem_numeral {word : List Char} (numeral : (numeralParts? word).isSome)
    {c : Char} (member : c ∈ word) : isNumeralChar c = true := by
  have sound : (divideNumeral word).isSound = true := by
    unfold numeralParts? at numeral
    by_cases sound : (divideNumeral word).isSound = true
    · exact sound
    · simp [sound] at numeral
  simp only [NumeralParts.isSound, Bool.and_eq_true, Option.all_eq_true] at sound
  obtain ⟨⟨whole, fraction⟩, exponent⟩ := sound
  rcases mem_divideNumeral member with inWhole | ⟨digits, isFraction, inFraction⟩ |
    ⟨parts, isExponent, inExponent⟩ | between
  · exact isNumeralChar_of_isDigit (all_isDigit_of_isWholeNumeral whole c inWhole)
  · exact isNumeralChar_of_isDigit
      (all_isDigit_of_isDigits (fraction digits isFraction) c inFraction)
  · exact isNumeralChar_of_isDigit
      (all_isDigit_of_isDigits (exponent parts isExponent) c inExponent)
  · have allowed : ∀ mark ∈ ['-', '+', '.', 'e', 'E'], isNumeralChar mark = true :=
      List.all_eq_true.mp (by decide)
    exact allowed c between

/-- A numeral is the token of a number. -/
theorem wordToken_of_numeral {word : List Char} (numeral : (numeralParts? word).isSome) :
    wordToken word = .number (String.ofList word) := by
  have noNumeral : ∀ name ∈ [['n', 'u', 'l', 'l'], ['t', 'r', 'u', 'e'], ['f', 'a', 'l', 's', 'e']],
      (numeralParts? name).isSome = false := by decide
  have isNoName : ∀ name ∈ [['n', 'u', 'l', 'l'], ['t', 'r', 'u', 'e'], ['f', 'a', 'l', 's', 'e']],
      word ≠ name := by
    rintro name listed rfl
    rw [noNumeral _ listed] at numeral
    cases numeral
  simp only [List.forall_mem_cons] at isNoName
  rw [wordToken, if_neg isNoName.1, if_neg isNoName.2.1, if_neg isNoName.2.2.1, if_pos numeral]

/-! ### What a reader makes of a text -/

/-- Whether a text ends the word before it. -/
def EndsWord (text : List Char) : Prop := ∀ c ∈ text.head?, endsWord c = true

/-- Whether a reader between tokens takes a text as a step from one builder to another, whatever
follows that ends the last word of it. -/
def Takes (text : List Char) (before after : Builder) : Prop :=
  ∀ rest, EndsWord rest →
    ((text ++ rest).foldl Reader.step ⟨.between, before⟩).finish =
      (rest.foldl Reader.step ⟨.between, after⟩).finish

namespace Takes

variable {builder middle after : Builder} {text rest : List Char}

/-- No text changes nothing. -/
theorem nil (builder : Builder) : Takes [] builder builder := fun _ _ => rfl

/-- A mark is a token by itself. -/
theorem mark {c : Char} {token : Token} (isMark : mark? c = some token)
    (takes : Takes text (builder.take token) after) : Takes (c :: text) builder after := by
  intro rest ends
  rw [List.cons_append, List.foldl_cons]
  show (List.foldl _ (Reader.begin builder c) _).finish = _
  rw [Reader.begin, isMark]
  exact takes rest ends

/-- A text that ends words goes on where the one before it ends. -/
theorem append (first : Takes text builder middle) (second : Takes rest middle after)
    (ends : ∀ following, EndsWord following → EndsWord (rest ++ following)) :
    Takes (text ++ rest) builder after := by
  intro following endsFollowing
  rw [List.append_assoc, first _ (ends following endsFollowing)]
  exact second following endsFollowing

/-- After a text a mark goes on. -/
theorem then_mark {c : Char} {token : Token} (first : Takes text builder middle)
    (isMark : mark? c = some token) (second : Takes rest (middle.take token) after) :
    Takes (text ++ c :: rest) builder after := by
  refine first.append (second.mark isMark) fun following _ other member => ?_
  rw [List.cons_append, List.head?_cons, Option.mem_some_iff] at member
  rw [← member, endsWord, isMark, Option.isSome_some, Bool.or_true]

/-! #### Words -/

theorem foldl_word {letters : List Char} (goesOn : ∀ c ∈ text, endsWord c = false) :
    text.foldl Reader.step ⟨.word letters, builder⟩ = ⟨.word (text.reverse ++ letters), builder⟩ := by
  induction text generalizing letters with
  | nil => rfl
  | cons c rest inRest =>
    rw [List.forall_mem_cons] at goesOn
    rw [List.foldl_cons, Reader.step]
    simp only [goesOn.1, Bool.false_eq_true, if_false]
    rw [inRest goesOn.2, List.reverse_cons, List.append_assoc]
    rfl

theorem finish_word {letters : List Char} (ends : EndsWord rest) :
    (rest.foldl Reader.step ⟨.word letters, builder⟩).finish =
      (rest.foldl Reader.step ⟨.between, builder.take (wordToken letters.reverse)⟩).finish := by
  cases rest with
  | nil => rfl
  | cons c following =>
    have endsHere : endsWord c = true := ends c rfl
    rw [List.foldl_cons, List.foldl_cons, Reader.step]
    simp only [endsHere, if_true]
    rfl

/-- A word is one token. -/
theorem word {c : Char} (goesOn : ∀ letter ∈ c :: text, endsWord letter = false) :
    Takes (c :: text) builder (builder.take (wordToken (c :: text))) := by
  intro rest ends
  rw [List.forall_mem_cons] at goesOn
  have notEnd := goesOn.1
  simp only [endsWord, Bool.or_eq_false_iff] at notEnd
  obtain ⟨⟨noSpace, noQuote⟩, noMark⟩ := notEnd
  have begins : Reader.step ⟨.between, builder⟩ c = ⟨.word [c], builder⟩ := by
    rw [Option.isSome_eq_false_iff, Option.isNone_iff_eq_none] at noMark
    show Reader.begin builder c = _
    rw [Reader.begin, noMark]
    simp only [noSpace, beq_eq_false_iff_ne.mp noQuote, Bool.false_eq_true, if_false]
  rw [List.cons_append, List.foldl_cons, begins, List.foldl_append, foldl_word goesOn.2,
    finish_word ends, List.reverse_append, List.reverse_reverse]
  rfl

end Takes

/-! ### Strings -/

/-- Whether a piece of a string stands for a character. -/
def Piece.StandsFor (piece : Piece) (c : Char) : Prop :=
  ∀ rest, joinPieces none (piece :: rest) = (joinPieces none rest).map (c :: ·)

theorem standsFor_char (c : Char) : (Piece.char c).StandsFor c := fun _ => rfl

/-- The number of a control character stands for it. -/
theorem standsFor_unit {c : Char} (control : c.toNat < 0x20) :
    (Piece.unit c.toNat).StandsFor c := by
  intro rest
  have notHigh : isHighSurrogate c.toNat = false := by
    simp [isHighSurrogate]
    omega
  have notLow : isLowSurrogate c.toNat = false := by
    simp [isLowSurrogate]
    omega
  rw [joinPieces, notHigh, notLow]
  simp [Char.ofNat_toNat]

theorem hexValue_hexChar {value : Nat} (small : value < 16) :
    hexValue? (hexChar value) = some value := by
  revert value
  decide

/-- The characters that are written as a letter after a backslash, with their letters. -/
def shortEscapes : List (Char × Char) :=
  [('"', '"'), ('\\', '\\'), ('\x08', 'b'), ('\t', 't'), ('\n', 'n'), ('\x0c', 'f'), ('\r', 'r')]

theorem escapeChar_of_short : ∀ escape ∈ shortEscapes,
    escapeChar escape.1 = ['\\', escape.2] ∧ escapedChar? escape.2 = some escape.1 := by
  decide

theorem escapeChar_of_long {c : Char} (long : ∀ escape ∈ shortEscapes, c ≠ escape.1) :
    c ≠ '"' ∧ c ≠ '\\' ∧ escapeChar c =
      if c < ' ' then ['\\', 'u', '0', '0', hexChar (c.toNat / 16), hexChar (c.toNat % 16)]
      else [c] := by
  simp only [shortEscapes, List.forall_mem_cons, List.not_mem_nil, false_implies, implies_true,
    and_true] at long
  refine ⟨long.1, long.2.1, ?_⟩
  simp [escapeChar, long]

/-- The number of a control character is read as its unit. -/
theorem foldl_unitEscape {c : Char} (control : c.toNat < 0x20) (pieces : List Piece)
    (builder : Builder) :
    ['\\', 'u', '0', '0', hexChar (c.toNat / 16), hexChar (c.toNat % 16)].foldl Reader.step
        ⟨.string pieces, builder⟩ = ⟨.string (.unit c.toNat :: pieces), builder⟩ := by
  have high : hexValue? (hexChar (c.toNat / 16)) = some (c.toNat / 16) :=
    hexValue_hexChar (by omega)
  have low : hexValue? (hexChar (c.toNat % 16)) = some (c.toNat % 16) :=
    hexValue_hexChar (by omega)
  have whole : 16 * (16 * 0 + c.toNat / 16) + c.toNat % 16 = c.toNat := by omega
  show [hexChar (c.toNat / 16), hexChar (c.toNat % 16)].foldl Reader.step
    ⟨.hex pieces 0 1, builder⟩ = _
  simp only [List.foldl_cons, List.foldl_nil, Reader.step, high, low, whole]

/-- **A character that is escaped is read back.** -/
theorem foldl_escapeChar (c : Char) (pieces : List Piece) (builder : Builder) :
    ∃ piece : Piece, piece.StandsFor c ∧
      (escapeChar c).foldl Reader.step ⟨.string pieces, builder⟩ =
        ⟨.string (piece :: pieces), builder⟩ := by
  by_cases short : ∃ escape ∈ shortEscapes, c = escape.1
  · obtain ⟨escape, listed, rfl⟩ := short
    obtain ⟨written, readBack⟩ := escapeChar_of_short escape listed
    refine ⟨.char escape.1, standsFor_char _, ?_⟩
    rw [written]
    show Reader.step ⟨.escape pieces, builder⟩ escape.2 = _
    simp only [Reader.step, readBack]
  · have long : ∀ escape ∈ shortEscapes, c ≠ escape.1 :=
      fun escape listed same => short ⟨escape, listed, same⟩
    obtain ⟨noQuote, noBackslash, written⟩ := escapeChar_of_long long
    rw [written]
    by_cases control : c < ' '
    · have small : c.toNat < 0x20 := control
      rw [if_pos control]
      exact ⟨.unit c.toNat, standsFor_unit small, foldl_unitEscape small pieces builder⟩
    · refine ⟨.char c, standsFor_char c, ?_⟩
      simp only [control, if_false, List.foldl_cons, List.foldl_nil, Reader.step, noQuote,
        noBackslash]

/-- Escaped characters are read back as pieces that stand for them. -/
theorem foldl_escapeChars (text : List Char) (pieces : List Piece) (builder : Builder) :
    ∃ added, joinPieces none added = some text ∧
      (text.flatMap escapeChar).foldl Reader.step ⟨.string pieces, builder⟩ =
        ⟨.string (added.reverse ++ pieces), builder⟩ := by
  induction text generalizing pieces with
  | nil => exact ⟨[], rfl, rfl⟩
  | cons c rest inRest =>
    obtain ⟨piece, standsFor, reads⟩ := foldl_escapeChar c pieces builder
    obtain ⟨added, joined, readsRest⟩ := inRest (piece :: pieces)
    refine ⟨piece :: added, ?_, ?_⟩
    · rw [standsFor added, joined, Option.map_some]
    · rw [List.flatMap_cons, List.foldl_append, reads, readsRest, List.reverse_cons,
        List.append_assoc]
      rfl

/-- **A written string is the token of its text.** -/
theorem takes_printText (text : String) (builder : Builder) :
    Takes (printText text) builder (builder.take (.string (some text))) := by
  intro rest _
  obtain ⟨pieces, joined, reads⟩ := foldl_escapeChars text.toList [] builder
  have token : stringToken (pieces.reverse ++ []).reverse = .string (some text) := by
    rw [List.append_nil, List.reverse_reverse, stringToken, joined, Option.map_some,
      String.ofList_toList]
  rw [printText, List.cons_append, List.cons_append, List.foldl_cons]
  show (List.foldl Reader.step ⟨.string [], builder⟩ _).finish = _
  rw [List.append_assoc, List.foldl_append, reads, List.singleton_append, List.foldl_cons, ← token]
  rfl

end QueryAlgebra.Json
