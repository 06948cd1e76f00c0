/-
**More levels read no less.**

The readers of documents go down a level with each container and refuse what lies deeper than their
levels. What a reader accepts with some levels it accepts with one more, as the same value
(`Solution.ofJson_succ`): so a part of a document can be taken out of it and read on its own.
-/
import QueryAlgebra.Proofs.Document.Solution

namespace QueryAlgebra

open Document

variable {levels : Nat}

namespace Document

/-- Whether whatever one reader accepts, another accepts as the same. -/
def ReadsMore {α : Type} (decode other : Json → Decoded α) : Prop :=
  ∀ value decoded, decode value = .ok decoded → other value = .ok decoded

theorem ReadsMore.nullable {α : Type} {decode other : Json → Decoded α}
    (more : ReadsMore decode other) : ReadsMore (decodeNullable decode) (decodeNullable other) := by
  intro value result succeeds
  obtain ⟨absent, nothing⟩ | ⟨present, decoded, isRead, same⟩ := decodeNullable_eq_ok.mp succeeds
  · exact decodeNullable_eq_ok.mpr (.inl ⟨absent, nothing⟩)
  · exact decodeNullable_eq_ok.mpr (.inr ⟨present, decoded, more _ _ isRead, same⟩)

/-- Members are read as the same where each step reads as the same. -/
theorem ReadsMore.foldEntries {σ : Type} {step other : σ → String → Json → Decoded σ}
    (more : ∀ state key, ReadsMore (step state key) (other state key)) {start result : σ}
    {entries : List (Option String × Json)}
    (succeeds : foldEntries step start entries = .ok result) :
    foldEntries other start entries = .ok result := by
  induction entries generalizing start with
  | nil => exact succeeds
  | cons entry rest inRest =>
    obtain ⟨key, after, named, taken, goesOn⟩ := foldEntries_cons_eq_ok.mp succeeds
    exact foldEntries_cons_eq_ok.mpr ⟨key, after, named, more _ _ _ _ taken, inRest goesOn⟩

theorem decodeName_succ : ReadsMore (decodeName levels) (decodeName (levels + 1)) := by
  intro value name succeeds
  cases names_of_decodeName succeeds <;> rfl

theorem isReadable_succ {value : Json} (readable : isReadable levels value = true) :
    isReadable (levels + 1) value = true := by
  induction levels generalizing value with
  | zero =>
    cases value with
    | array => cases readable
    | object => cases readable
    | _ => exact readable
  | succ levels inLevels =>
    cases value with
    | array items ending =>
      cases ending with
      | cut => cases readable
      | closed =>
        have each : ∀ item ∈ items, isReadable levels item = true :=
          List.all_eq_true.mp readable
        exact List.all_eq_true.mpr fun item member => inLevels (each item member)
    | object members ending =>
      cases ending with
      | cut => cases readable
      | closed =>
        have each : ∀ member ∈ members, (member.1.isSome && isReadable levels member.2) = true :=
          List.all_eq_true.mp readable
        refine List.all_eq_true.mpr fun member listed => ?_
        obtain ⟨named, isReadable⟩ := Bool.and_eq_true_iff.mp (each member listed)
        exact Bool.and_eq_true_iff.mpr ⟨named, inLevels isReadable⟩
    | _ => exact readable

end Document

/-! ### Terms -/

theorem Literal.ofJson_succ : ReadsMore (Literal.ofJson levels) (Literal.ofJson (levels + 1)) := by
  intro value literal succeeds
  cases levels with
  | zero => cases succeeds
  | succ levels => exact succeeds

namespace Term

theorem Kind.ofJson_succ : ReadsMore (Kind.ofJson levels) (Kind.ofJson (levels + 1)) := by
  intro value kind succeeds
  obtain ⟨name, isName, isKind⟩ := bind_eq_ok.mp succeeds
  exact bind_eq_ok.mpr ⟨name, decodeName_succ _ _ isName, isKind⟩

theorem ofKind_succ {value : Json} {kind : Kind} {term : Term}
    (succeeds : ofKind levels value kind = .ok term) :
    ofKind (levels + 1) value kind = .ok term := by
  cases kind with
  | literal =>
    obtain ⟨literal, isLiteral, same⟩ := map_eq_ok.mp succeeds
    exact map_eq_ok.mpr ⟨literal, Literal.ofJson_succ _ _ isLiteral, same⟩
  | _ => exact succeeds

theorem readField_succ (progress : Progress) (key : String) :
    ReadsMore (readField levels progress key) (readField (levels + 1) progress key) := by
  intro value after taken
  unfold readField at taken
  split at taken
  · obtain ⟨kind, isKind, same⟩ := map_eq_ok.mp taken
    exact map_eq_ok.mpr ⟨kind, Kind.ofJson_succ _ _ isKind, same⟩
  · obtain ⟨kind, isKind, taken⟩ := bind_eq_ok.mp taken
    obtain ⟨term, isTerm, same⟩ := bind_eq_ok.mp taken
    exact bind_eq_ok.mpr
      ⟨kind, Kind.ofJson_succ _ _ isKind, bind_eq_ok.mpr ⟨term, ofKind_succ isTerm, same⟩⟩
  · cases taken
  · split at taken
    · rename_i readable
      rw [← taken]
      exact if_pos (isReadable_succ readable)
    · cases taken
  · obtain ⟨term, isTerm, same⟩ := map_eq_ok.mp taken
    exact map_eq_ok.mpr ⟨term, ofKind_succ isTerm, same⟩
  · cases taken
  · rename_i noKind noValue _ _ _ _
    rw [← taken]
    simp only [readField]

theorem ofJson_succ : ReadsMore (ofJson levels) (ofJson (levels + 1)) := by
  intro value term succeeds
  cases levels with
  | zero => cases succeeds
  | succ levels =>
    obtain ⟨members, opens, closed, isRead⟩ := ofJson_eq_ok.mp succeeds
    exact ofJson_eq_ok.mpr ⟨members, opens, closed, ReadsMore.foldEntries readField_succ isRead⟩

end Term

/-! ### Solutions -/

namespace Solution

theorem readBinding_succ (before : Solution) (name : String) :
    ReadsMore (readBinding levels before name) (readBinding (levels + 1) before name) := by
  intro value after succeeds
  obtain ⟨value?, isValue, same⟩ := readBinding_eq_ok.mp succeeds
  exact readBinding_eq_ok.mpr ⟨value?, Term.ofJson_succ.nullable _ _ isValue, same⟩

theorem bindingsOfJson_succ :
    ReadsMore (bindingsOfJson levels) (bindingsOfJson (levels + 1)) := by
  intro value solution succeeds
  cases levels with
  | zero => cases succeeds
  | succ levels =>
    obtain ⟨entries, opens, isRead⟩ := bindingsOfJson_eq_ok.mp succeeds
    exact bindingsOfJson_eq_ok.mpr ⟨entries, opens, ReadsMore.foldEntries readBinding_succ isRead⟩

theorem readField_succ (bindings : Option Solution) (key : String) :
    ReadsMore (readField levels bindings key) (readField (levels + 1) bindings key) := by
  intro value after taken
  unfold readField at taken ⊢
  split at taken
  · obtain ⟨empty, solution, isRead, same⟩ := fill_eq_ok.mp taken
    exact fill_eq_ok.mpr ⟨empty, solution, bindingsOfJson_succ _ _ isRead, same⟩
  · exact taken

/-- **A solution that is read is read as the same with one level more.** -/
theorem ofJson_succ : ReadsMore (ofJson levels) (ofJson (levels + 1)) := by
  intro value solution succeeds
  cases levels with
  | zero => cases succeeds
  | succ levels =>
    obtain ⟨members, bindings, opens, closed, isRead, accepted⟩ := record_eq_ok.mp succeeds
    exact record_eq_ok.mpr ⟨members, bindings, opens, closed,
      ReadsMore.foldEntries readField_succ isRead, accepted⟩

end Solution

end QueryAlgebra
