/-
**Solutions that are written and read again.**

The document of a solution that was read is read again, but the name of every variable loses another
sigil if it begins with one (`Solution.ofJson_toJson`). Nothing is lost where no name does. Where
one does, something is lost: either two variables become one, or a variable or a value changes its
name (`Solution.agrees_reread_iff`). If no two became one, the renaming would be injective on the
listed variables and keep their set, though it shortens every name that is not bare.
-/
import QueryAlgebra.Proofs.Document.Roundtrip
import QueryAlgebra.Proofs.Document.Solution
import QueryAlgebra.Proofs.Solution

namespace QueryAlgebra

open Document

namespace Variable

theorem length_dropSigil_lt {text : List Char} (differs : dropSigil text ≠ text) :
    (dropSigil text).length < text.length := by
  revert differs
  fun_cases dropSigil text with
  | case1 rest => exact fun _ => Nat.lt_succ_self _
  | case2 rest => exact fun _ => Nat.lt_succ_self _
  | case3 => exact fun differs => absurd rfl differs

/-- A variable whose name begins with a sigil is read as one with a shorter name. -/
theorem length_ofName_lt {reference : Variable} (sigil : ¬reference.IsBare) :
    (ofName reference.name).name.toList.length < reference.name.toList.length := by
  rw [IsBare, ← dropSigil_eq_self_iff] at sigil
  rw [ofName, String.toList_ofList]
  exact length_dropSigil_lt sigil

end Variable

/-- The document of a term has two containers in each other at most. -/
theorem Term.nesting_toJson_le (term : Term) : term.toJson.nesting ≤ 2 := by
  refine Json.nesting_ofMembers_le.mpr ⟨1, rfl, List.forall_mem_cons.mpr
    ⟨Nat.zero_le _, List.forall_mem_singleton.mpr ?_⟩⟩
  cases term with
  | literal literal =>
    refine Json.nesting_ofMembers_le.mpr ⟨0, rfl, List.forall_mem_cons.mpr ⟨Nat.zero_le _, ?_⟩⟩
    cases literal.annotation with
    | none => exact List.forall_mem_nil _
    | datatype iri => exact List.forall_mem_singleton.mpr (Nat.zero_le _)
    | language tag => exact List.forall_mem_singleton.mpr (Nat.zero_le _)
  | _ => exact Nat.zero_le _

/-- Where no two elements of a list have the same image, elements with the same image are equal. -/
theorem eq_of_nodup_map {α β : Type} {image : α → β} {elements : List α}
    (distinct : (elements.map image).Nodup) {first second : α} (inFirst : first ∈ elements)
    (inSecond : second ∈ elements) (same : image first = image second) : first = second := by
  induction elements with
  | nil => cases inFirst
  | cons element rest inRest =>
    obtain ⟨fresh, distinct⟩ := List.nodup_cons.mp distinct
    rcases List.mem_cons.mp inFirst with rfl | firstLater
    · rcases List.mem_cons.mp inSecond with rfl | secondLater
      · rfl
      · exact absurd (List.mem_map.mpr ⟨second, secondLater, same.symm⟩) fresh
    · rcases List.mem_cons.mp inSecond with rfl | secondLater
      · exact absurd (List.mem_map.mpr ⟨first, firstLater, same⟩) fresh
      · exact inRest distinct firstLater secondLater

/-! ### One solution -/

namespace Solution

variable {solution : Solution} {levels : Nat}

/-- The entry that an entry is read as after it was written. -/
def rereadEntry (entry : Variable × Option Term) : Variable × Option Term :=
  (Variable.ofName entry.1.name, entry.2.map Term.reread)

/-- What the document of a solution is read as. -/
def reread (solution : Solution) : Solution := ofEntries (solution.map.entries.map rereadEntry)

theorem isBuilt_toJson (solution : Solution) : solution.toJson.IsBuilt := by
  refine .members (List.forall_mem_singleton.mpr (.members (List.forall_mem_map.mpr ?_)))
  intro entry _
  cases entry.2 with
  | none => exact .null
  | some term => exact term.isBuilt_toJson

/-- The value of a variable is read as it was written, but for the sigil of a variable. -/
theorem decode_valueToJson {value? : Option Term}
    (valid : ∀ value, value? = some value → value.IsValid)
    (fits : (valueToJson value?).nesting ≤ levels) :
    decodeNullable (Term.ofJson levels) (valueToJson value?) = .ok (value?.map Term.reread) := by
  cases value? with
  | none => rfl
  | some value => exact map_eq_ok.mpr ⟨_, Term.ofJson_toJson (valid value rfl) fits, rfl⟩

/-- Entries that are written are put again, as they are read. -/
theorem foldEntries_written {entries : List (Variable × Option Term)} {start : Solution}
    (valid : ∀ entry ∈ entries, ∀ value, entry.2 = some value → value.IsValid)
    (fits : ∀ entry ∈ entries, (valueToJson entry.2).nesting ≤ levels) :
    foldEntries (readBinding levels) start
        (entries.map fun entry => (some entry.1.name, valueToJson entry.2)) =
      .ok ⟨start.map.putAll (entries.map rereadEntry)⟩ := by
  induction entries generalizing start with
  | nil => rfl
  | cons entry rest inRest =>
    rw [List.forall_mem_cons] at valid fits
    refine foldEntries_cons_eq_ok.mpr ⟨_, _, rfl, readBinding_eq_ok.mpr
      ⟨_, decode_valueToJson valid.1 fits.1, rfl⟩, ?_⟩
    exact inRest valid.2 fits.2

/-- **The document of a valid solution is read as it**, but for the sigils of variables. -/
theorem ofJson_toJson (valid : solution.IsValid) (fits : solution.toJson.nesting ≤ levels) :
    ofJson levels solution.toJson = .ok solution.reread := by
  obtain ⟨outer, rfl, fitsBindings⟩ := Json.nesting_ofMembers_le.mp fits
  obtain ⟨inner, rfl, fitsValues⟩ := Json.nesting_ofMembers_le.mp (fitsBindings _ (.head _))
  have areBindings : bindingsOfJson (inner + 1) solution.bindingsToJson = .ok solution.reread := by
    refine bindingsOfJson_eq_ok.mpr ⟨_, rfl, ?_⟩
    rw [List.map_map]
    exact foldEntries_written valid (List.forall_mem_map.mp fitsValues)
  refine record_eq_ok.mpr ⟨_, some solution.reread, rfl, rfl, ?_, rfl⟩
  exact foldEntries_cons_eq_ok.mpr ⟨_, _, rfl, fill_eq_ok.mpr ⟨rfl, _, areBindings, rfl⟩, rfl⟩

/-- The document of a solution has four containers in each other at most. -/
theorem nesting_toJson_le (solution : Solution) : solution.toJson.nesting ≤ 4 := by
  refine Json.nesting_ofMembers_le.mpr ⟨3, rfl, List.forall_mem_singleton.mpr ?_⟩
  refine Json.nesting_ofMembers_le.mpr ⟨2, rfl, List.forall_mem_map.mpr fun entry _ => ?_⟩
  show (valueToJson entry.2).nesting ≤ 2
  cases entry.2 with
  | none => exact Nat.zero_le _
  | some term => exact term.nesting_toJson_le

/-- A bare solution is read as it was written. -/
theorem reread_of_isBare (bare : solution.IsBare) : solution.reread = solution := by
  have same : solution.map.entries.map rereadEntry = solution.map.entries := by
    refine (List.map_congr_left fun entry member => ?_).trans (List.map_id _)
    obtain ⟨reference, value?⟩ := entry
    have isBare := bare.vars reference (List.mem_map_of_mem member)
    refine Prod.ext ((Variable.isBare_iff reference).mp isBare) ?_
    cases value? with
    | none => rfl
    | some value =>
      exact congrArg some ((Term.reread_eq_self_iff value).mpr (bare.values _ member value rfl))
  rw [reread, same, ofEntries, OrderedMap.ofList_entries]

section Agrees

variable (kept : solution.reread.agrees solution = true) {entry : Variable × Option Term}
  (member : entry ∈ solution.map.entries)

include kept

/-- Where as many variables come back, no two of them have become one. -/
theorem nodup_of_agrees : ((solution.map.entries.map rereadEntry).map Prod.fst).Nodup := by
  have full := (agrees_iff.mp kept).1
  refine @OrderedMap.nodup_of_size_putAll _ _ _ OrderedMap.empty _ ?_
  rw [List.length_map]
  exact full.trans (Nat.zero_add _).symm

include member

/-- Where a solution comes back, it has each entry as it was read again. -/
theorem rereadEntry_mem : rereadEntry entry ∈ solution.map.entries := by
  have listed : solution.reread.map.entries = solution.map.entries.map rereadEntry :=
    @OrderedMap.entries_putAll _ _ _ OrderedMap.empty _ (nodup_of_agrees kept)
  have again : rereadEntry entry ∈ solution.reread.map.entries :=
    listed ▸ List.mem_map_of_mem member
  exact OrderedMap.mem_of_find? ((agrees_iff.mp kept).2 _ again)

/-- Where a solution comes back, its variables are bare. -/
theorem isBare_of_agrees : entry.1.IsBare := by
  induction length : entry.1.name.toList.length using Nat.strongRecOn generalizing entry with
  | ind _ shorter =>
    by_cases bare : entry.1.IsBare
    · exact bare
    · -- The renamed variable is listed too and shorter, so it is bare: both are renamed to it,
      -- which no two variables are.
      have moved := rereadEntry_mem kept member
      have isBare := shorter _ (length ▸ Variable.length_ofName_lt bare) moved rfl
      have again : (rereadEntry (rereadEntry entry)).1 = (rereadEntry entry).1 :=
        (Variable.isBare_iff _).mp isBare
      have distinct := nodup_of_agrees kept
      rw [List.map_map] at distinct
      exact eq_of_nodup_map distinct moved member again ▸ isBare

/-- Where a solution comes back, its values are bare. -/
theorem value_isBare_of_agrees {value : Term} (isValue : entry.2 = some value) : value.IsBare := by
  have sameKey : (rereadEntry entry).1 = entry.1 :=
    (Variable.isBare_iff _).mp (isBare_of_agrees kept member)
  have same := eq_of_nodup_map solution.map.distinct (rereadEntry_mem kept member) member sameKey
  have sameValue : entry.2.map Term.reread = entry.2 := congrArg Prod.snd same
  rw [isValue] at sameValue
  exact (Term.reread_eq_self_iff value).mp (Option.some.inj sameValue)

end Agrees

/-- **A solution comes back exactly when it is bare.** -/
theorem agrees_reread_iff : solution.reread.agrees solution = true ↔ solution.IsBare := by
  constructor
  · refine fun kept => ⟨fun reference listed => ?_, fun entry member value isValue => ?_⟩
    · obtain ⟨entry, member, rfl⟩ := List.mem_map.mp listed
      exact isBare_of_agrees kept member
    · exact value_isBare_of_agrees kept member isValue
  · intro bare
    rw [reread_of_isBare bare]
    exact agrees_self solution

end Solution

/-! ### Sequences -/

namespace Solutions

variable {solutions : Solutions} {levels : Nat}

theorem isBuilt_toJson (solutions : Solutions) : (toJson solutions).IsBuilt :=
  .items (List.forall_mem_map.mpr fun solution _ => solution.isBuilt_toJson)

/-- The document of valid solutions is read as them, but for the sigils of variables. -/
theorem ofJson_toJson (valid : solutions.IsValid) :
    ofJson greatestLevels (toJson solutions) = .ok (solutions.map Solution.reread) :=
  decodeList_ofItems fun solution member => Solution.ofJson_toJson (valid solution member)
    (Nat.le_trans solution.nesting_toJson_le (by decide))

theorem agrees_map_iff {change : Solution → Solution} :
    Solutions.agrees (solutions.map change) solutions = true ↔
      ∀ solution ∈ solutions, (change solution).agrees solution = true := by
  rw [agrees, List.length_map, beq_self_eq_true, Bool.true_and, List.all_eq_true]
  induction solutions with
  | nil => exact iff_of_true (List.forall_mem_nil _) (List.forall_mem_nil _)
  | cons solution rest inRest =>
    rw [List.map_cons, List.zip_cons_cons, List.forall_mem_cons, List.forall_mem_cons, inRest]

/-- **Solutions that are read, written and read again** come back as they were when no variable in
them has a name that begins with a sigil, and only then. -/
theorem ofText_written (text : List Char) (solutions : Solutions)
    (accepted : ofText ofJson text = .ok solutions) :
    ∃ again, ofText ofJson (toJson solutions).print = .ok again ∧
      ((∀ solution ∈ solutions, solution.IsBare) → again = solutions) ∧
      (Solutions.agrees again solutions = true → ∀ solution ∈ solutions, solution.IsBare) := by
  obtain ⟨_, _, isRead⟩ := ofText_eq_ok.mp accepted
  refine ⟨solutions.map Solution.reread, ?_, fun bare => ?_, fun kept solution member => ?_⟩
  · rw [ofText_print (isBuilt_toJson solutions)]
    exact ofJson_toJson (isValid_of_ofJson isRead)
  · exact (List.map_congr_left fun solution member =>
      Solution.reread_of_isBare (bare solution member)).trans (List.map_id _)
  · exact Solution.agrees_reread_iff.mp (agrees_map_iff.mp kept solution member)

/-- A variable that is written with its sigil once comes back. -/
theorem ofText_written_once : ∃ again,
    ofText ofJson (toJson [Solution.empty.declare ⟨"a"⟩]).print = .ok again ∧
      again = [Solution.empty.declare ⟨"a"⟩] := by
  obtain ⟨again, isRead, kept, _⟩ := ofText_written
    "[\x7b\"bindings\":\x7b\"?a\":null\x7d\x7d]".toList [Solution.empty.declare ⟨"a"⟩] rfl
  refine ⟨again, isRead, kept (List.forall_mem_singleton.mpr ⟨?_, ?_⟩)⟩
  · exact List.forall_mem_singleton.mpr (by decide)
  · exact List.forall_mem_singleton.mpr fun _ same => by cases same

/-- **A sigil before a sigil is lost.** The variables `?a` and `a` are two in a document that writes
them `??a` and `a`, and one when they are read again. -/
theorem merged_variables : ∃ solutions again,
    ofText ofJson "[\x7b\"bindings\":\x7b\"??a\":null,\"a\":null\x7d\x7d]".toList = .ok solutions ∧
      ofText ofJson (toJson solutions).print = .ok again ∧
      Solutions.agrees again solutions = false ∧
      solutions.map Solution.vars = [[⟨"?a"⟩, ⟨"a"⟩]] ∧ again.map Solution.vars = [[⟨"a"⟩]] :=
  ⟨[Solution.ofEntries [(⟨"?a"⟩, none), (⟨"a"⟩, none)]], [Solution.ofEntries [(⟨"a"⟩, none)]],
    rfl, rfl, rfl, rfl, rfl⟩

end Solutions

end QueryAlgebra
