/-
**Matching triple patterns.**

Assignments say of some variables which terms stand for them, and a function from variables to terms
may or may not agree with them. Matching a position adds what the position demands: the functions
that agree with the assignments afterwards are those that agreed before and turn the term of the
pattern into that of the triple (`agreesWith_of_matchTerm`), and where it fails there are none
(`ne_of_matchTerm`). So a triple pattern matches a triple exactly when some function turns the one
into the other, and its assignments are all that such a function has to keep to
(`matchTriple_most_general`).
-/
import Mathlib.Data.List.Basic
import Mathlib.Data.List.Induction
import QueryAlgebra.Pattern.Basic

namespace QueryAlgebra

/-! ### Lists without repetitions -/

section Distinct

variable {α : Type} [DecidableEq α] {seen elements : List α}

/-- Whether a list has the elements of another in order of first appearance. -/
structure IsDistinctOf (listed elements : List α) : Prop where
  mem_iff : ∀ element, element ∈ listed ↔ element ∈ elements
  ordered : listed.Pairwise fun former latter => elements.idxOf former < elements.idxOf latter

/-- The order leaves no room for repetitions. -/
theorem IsDistinctOf.nodup (listed : IsDistinctOf seen elements) : seen.Nodup := by
  refine listed.ordered.imp ?_
  rintro former _ less rfl
  exact Nat.lt_irrefl _ less

/-- Elements with one more behind them, unless it is among them. -/
def addDistinct (seen : List α) (element : α) : List α :=
  if element ∈ seen then seen else seen ++ [element]

theorem distinct_eq_foldl (elements : List α) : distinct elements = elements.foldl addDistinct [] :=
  rfl

/-- One more element keeps the order of those before it. -/
theorem IsDistinctOf.append_singleton (before : IsDistinctOf seen elements) (element : α) :
    IsDistinctOf (addDistinct seen element) (elements ++ [element]) := by
  have order : seen.Pairwise fun former latter =>
      (elements ++ [element]).idxOf former < (elements ++ [element]).idxOf latter :=
    before.ordered.imp_of_mem fun former latter less => by
      rwa [List.idxOf_append_of_mem ((before.mem_iff _).mp former),
        List.idxOf_append_of_mem ((before.mem_iff _).mp latter)]
  rw [addDistinct]
  split
  · rename_i there
    refine ⟨fun other => ?_, order⟩
    rw [before.mem_iff, List.mem_append, List.mem_singleton, or_iff_left_of_imp]
    rintro rfl
    exact (before.mem_iff _).mp there
  · rename_i new
    rw [before.mem_iff] at new
    refine ⟨fun other => ?_, List.pairwise_append.mpr ⟨order, List.pairwise_singleton _ _, ?_⟩⟩
    · rw [List.mem_append, List.mem_append, before.mem_iff]
    · intro former member latter last
      rw [List.mem_singleton] at last
      subst last
      have inside := (before.mem_iff _).mp member
      rw [List.idxOf_append_of_mem inside, List.idxOf_append_of_notMem new]
      exact Nat.lt_add_right _ (List.idxOf_lt_length_of_mem inside)

/-- **The elements without repetitions** are those in order of first appearance. -/
theorem isDistinctOf_distinct (elements : List α) : IsDistinctOf (distinct elements) elements := by
  rw [distinct_eq_foldl]
  induction elements using List.reverseRecOn with
  | nil => exact ⟨fun _ => Iff.rfl, .nil⟩
  | append_singleton front last inFront =>
    rw [List.foldl_append]
    exact inFront.append_singleton last

end Distinct

/-! ### Functions from variables to terms -/

/-- A term, or what a function puts for it if it is a variable. -/
def Term.fill (value : Variable → Term) : Term → Term
  | .var reference => value reference
  | fixed => fixed

theorem Term.fill_of_fixed {term : Term} (fixed : term.var? = none) (value : Variable → Term) :
    term.fill value = term := by
  cases term with
  | var reference => cases fixed
  | iri _ | literal _ | blank _ => rfl

/-- A triple pattern with terms put for its variables. -/
def TriplePattern.fill (value : Variable → Term) (pattern : TriplePattern) : TriplePattern :=
  ⟨pattern.subject.fill value, pattern.predicate.fill value, pattern.object.fill value⟩

/-- A triple as a pattern. -/
def Triple.toPattern (triple : Triple) : TriplePattern :=
  ⟨triple.subject, .iri triple.predicate, triple.object⟩

variable {assignments result : Assignments} {value : Variable → Term} {reference : Variable}
variable {pattern term : Term}

namespace Assignments

/-- The variables that terms are assigned to. -/
def keys (assignments : Assignments) : List Variable := assignments.map Prod.fst

/-- Assignments as a function, which leaves all other variables as they are. -/
def termOf (assignments : Assignments) (reference : Variable) : Term :=
  (assignments.lookup reference).getD (.var reference)

/-- Whether a function gives the variables the terms that are assigned to them. -/
def AgreesWith (assignments : Assignments) (value : Variable → Term) : Prop :=
  ∀ reference term, assignments.lookup reference = some term → value reference = term

theorem agreesWith_termOf (assignments : Assignments) :
    assignments.AgreesWith assignments.termOf := by
  intro reference term found
  rw [termOf, found, Option.getD_some]

theorem lookup_eq_none_iff : assignments.lookup reference = none ↔ reference ∉ assignments.keys := by
  rw [List.lookup_eq_none_iff, keys, List.mem_map]
  constructor
  · rintro absent ⟨entry, member, rfl⟩
    exact bne_iff_ne.mp (absent entry member) rfl
  · exact fun absent entry member => bne_iff_ne.mpr fun same => absent ⟨entry, member, same.symm⟩

/-- **A function that agrees** gives a variable with a term this term. -/
theorem AgreesWith.eq_termOf (agrees : assignments.AgreesWith value)
    (listed : reference ∈ assignments.keys) : value reference = assignments.termOf reference := by
  cases found : assignments.lookup reference with
  | none => exact absurd listed (lookup_eq_none_iff.mp found)
  | some term => rw [agrees _ _ found, termOf, found, Option.getD_some]

theorem lookup_append_singleton (assignments : Assignments) (reference other : Variable)
    (term : Term) :
    List.lookup other (assignments ++ [(reference, term)]) =
      (assignments.lookup other).or (if other = reference then some term else none) := by
  rw [List.lookup_append, List.lookup_cons, List.lookup_nil]
  by_cases same : other = reference
  · rw [if_pos same, beq_iff_eq.mpr same]
  · rw [if_neg same, beq_eq_false_iff_ne.mpr same]

/-- A new assignment is one more demand. -/
theorem agreesWith_append_singleton (absent : assignments.lookup reference = none) :
    AgreesWith (assignments ++ [(reference, term)]) value ↔
      assignments.AgreesWith value ∧ value reference = term := by
  constructor
  · intro agrees
    refine ⟨fun other bound found => agrees other bound ?_, agrees reference term ?_⟩
    · rw [lookup_append_singleton, found, Option.some_or]
    · rw [lookup_append_singleton, absent, Option.none_or, if_pos rfl]
  · rintro ⟨agrees, same⟩ other bound found
    rw [lookup_append_singleton, Option.or_eq_some_iff] at found
    rcases found with before | ⟨_, last⟩
    · exact agrees other bound before
    · split_ifs at last with isReference
      cases last
      rwa [isReference]

end Assignments

namespace TriplePattern

open Assignments

/-! ### One position -/

theorem matchTerm_of_fixed (fixed : pattern.var? = none) :
    matchTerm assignments pattern term = if pattern = term then some assignments else none := by
  cases pattern with
  | var reference => cases fixed
  | iri _ | literal _ | blank _ => rfl

/-- **How a position matches**: it is the term itself, or a variable that has the term already or
takes it. -/
theorem matchTerm_cases (matched : matchTerm assignments pattern term = some result) :
    (pattern.var? = none ∧ pattern = term ∧ result = assignments) ∨
    (∃ reference, pattern = .var reference ∧ assignments.lookup reference = some term ∧
      result = assignments) ∨
    ∃ reference, pattern = .var reference ∧ assignments.lookup reference = none ∧
      result = assignments ++ [(reference, term)] := by
  cases shape : pattern.var? with
  | none =>
    rw [matchTerm_of_fixed shape] at matched
    split_ifs at matched with same
    exact .inl ⟨rfl, same, (Option.some.inj matched).symm⟩
  | some reference =>
    obtain rfl : pattern = .var reference := by
      cases pattern <;> cases shape
      rfl
    rw [matchTerm] at matched
    cases found : assignments.lookup reference with rw [found] at matched
    | some bound =>
      simp only at matched
      split_ifs at matched with same
      exact .inr (.inl ⟨reference, rfl, found.trans (congrArg some same),
        (Option.some.inj matched).symm⟩)
    | none => exact .inr (.inr ⟨reference, rfl, found, (Option.some.inj matched).symm⟩)

/-- **What a position demands** is added to the assignments. -/
theorem agreesWith_of_matchTerm (matched : matchTerm assignments pattern term = some result) :
    result.AgreesWith value ↔ assignments.AgreesWith value ∧ pattern.fill value = term := by
  rcases matchTerm_cases matched with ⟨fixed, same, rfl⟩ | ⟨reference, rfl, found, rfl⟩ |
    ⟨reference, rfl, absent, rfl⟩
  · exact (and_iff_left ((Term.fill_of_fixed fixed value).trans same)).symm
  · exact (and_iff_left_of_imp fun agrees => agrees _ _ found).symm
  · exact agreesWith_append_singleton absent

/-- **A position that fails** demands what no function that agrees gives. -/
theorem ne_of_matchTerm (failed : matchTerm assignments pattern term = none)
    (agrees : assignments.AgreesWith value) : pattern.fill value ≠ term := by
  cases pattern with
  | var reference =>
    rw [matchTerm] at failed
    cases found : assignments.lookup reference with rw [found] at failed
    | some bound =>
      simp only at failed
      split_ifs at failed with differs
      exact fun same => differs ((agrees _ _ found).symm.trans same)
    | none => cases failed
  | iri _ | literal _ | blank _ =>
    rw [matchTerm_of_fixed rfl] at failed
    split_ifs at failed with differs
    exact differs

/-- A position lists its variable, unless it is listed. -/
theorem keys_of_matchTerm (matched : matchTerm assignments pattern term = some result) :
    result.keys = pattern.var?.toList.foldl addDistinct assignments.keys := by
  rcases matchTerm_cases matched with ⟨fixed, _, rfl⟩ | ⟨reference, rfl, found, rfl⟩ |
    ⟨reference, rfl, absent, rfl⟩
  · rw [fixed]
    rfl
  · have listed : reference ∈ result.keys := by
      by_contra absent
      cases found.symm.trans (lookup_eq_none_iff.mpr absent)
    exact (if_pos listed).symm
  · refine Eq.trans ?_ (if_neg (lookup_eq_none_iff.mp absent)).symm
    exact List.map_append

/-! ### All positions -/

/-- Matches positions one after the other. -/
def matchTerms (assignments : Assignments) : List (Term × Term) → Option Assignments
  | [] => some assignments
  | (pattern, term) :: rest =>
    (matchTerm assignments pattern term).bind fun next => matchTerms next rest

variable {positions : List (Term × Term)}

/-- **What the positions demand** is what the assignments say. -/
theorem agreesWith_of_matchTerms (matched : matchTerms assignments positions = some result) :
    result.AgreesWith value ↔
      assignments.AgreesWith value ∧ ∀ position ∈ positions, position.1.fill value = position.2 := by
  induction positions generalizing assignments with
  | nil =>
    cases matched
    exact (and_iff_left (List.forall_mem_nil _)).symm
  | cons position rest inRest =>
    obtain ⟨next, first, matched⟩ := Option.bind_eq_some_iff.mp matched
    rw [inRest matched, agreesWith_of_matchTerm first, List.forall_mem_cons, and_assoc]

/-- **Positions that fail** demand what no function that agrees gives. -/
theorem exists_ne_of_matchTerms (failed : matchTerms assignments positions = none)
    (agrees : assignments.AgreesWith value) :
    ∃ position ∈ positions, position.1.fill value ≠ position.2 := by
  induction positions generalizing assignments with
  | nil => cases failed
  | cons position rest inRest =>
    by_cases same : position.1.fill value = position.2
    · cases first : matchTerm assignments position.1 position.2 with
      | none => exact absurd same (ne_of_matchTerm first agrees)
      | some next =>
        rw [matchTerms, first, Option.bind_some] at failed
        obtain ⟨other, member, differs⟩ :=
          inRest failed ((agreesWith_of_matchTerm first).mpr ⟨agrees, same⟩)
        exact ⟨other, List.mem_cons_of_mem _ member, differs⟩
    · exact ⟨position, List.mem_cons_self, same⟩

/-- The positions list their variables in order of first appearance. -/
theorem keys_of_matchTerms (matched : matchTerms assignments positions = some result) :
    result.keys =
      (positions.filterMap fun position => position.1.var?).foldl addDistinct assignments.keys := by
  induction positions generalizing assignments with
  | nil =>
    cases matched
    rfl
  | cons position rest inRest =>
    obtain ⟨next, first, matched⟩ := Option.bind_eq_some_iff.mp matched
    rw [inRest matched, keys_of_matchTerm first, List.filterMap_cons]
    cases position.1.var? <;> rfl

end TriplePattern

/-! ### Triple patterns -/

namespace TriplePattern

variable (pattern : TriplePattern) (triple : Triple)

/-- The terms of a triple pattern with those of a triple. -/
def positions : List (Term × Term) := pattern.terms.zip triple.toPattern.terms

theorem matchTriple_eq : pattern.matchTriple triple = matchTerms [] (pattern.positions triple) := by
  have last : ∀ assignments, matchTerms assignments [(pattern.object, triple.object)] =
      matchTerm assignments pattern.object triple.object := fun assignments =>
    Option.bind_fun_some _
  simp only [matchTriple, ← last]
  rfl

theorem fill_eq_iff {value : Variable → Term} :
    pattern.fill value = triple.toPattern ↔
      ∀ position ∈ pattern.positions triple, position.1.fill value = position.2 := by
  simp [fill, Triple.toPattern, positions, terms]

/-- The variables of a match are those of the triple pattern without repetitions. -/
theorem keys_of_matchTriple {assignments : Assignments}
    (matched : pattern.matchTriple triple = some assignments) :
    assignments.keys = distinct pattern.vars := by
  rw [matchTriple_eq] at matched
  exact keys_of_matchTerms matched

/-- **The functions that turn a triple pattern into a triple** are those that agree with the
match. -/
theorem agreesWith_of_matchTriple {assignments : Assignments} {value : Variable → Term}
    (matched : pattern.matchTriple triple = some assignments) :
    assignments.AgreesWith value ↔ pattern.fill value = triple.toPattern := by
  rw [matchTriple_eq] at matched
  rw [agreesWith_of_matchTerms matched, fill_eq_iff]
  exact and_iff_right nofun

/-- **A triple pattern matches** when some function turns it into the triple, and then its
assignments list its variables and are all that such a function has to keep to. -/
theorem matchTriple_most_general :
    ((∃ assignments, pattern.matchTriple triple = some assignments) ↔
      ∃ value, pattern.fill value = triple.toPattern) ∧
    ∀ assignments, pattern.matchTriple triple = some assignments →
      IsDistinctOf assignments.keys pattern.vars ∧ assignments.keys.Nodup ∧
      pattern.fill assignments.termOf = triple.toPattern ∧
      ∀ value, pattern.fill value = triple.toPattern →
        ∀ reference ∈ pattern.vars, value reference = assignments.termOf reference := by
  have listed : ∀ assignments, pattern.matchTriple triple = some assignments →
      IsDistinctOf assignments.keys pattern.vars := fun assignments matched => by
    rw [pattern.keys_of_matchTriple triple matched]
    exact isDistinctOf_distinct pattern.vars
  have sound : ∀ assignments, pattern.matchTriple triple = some assignments →
      pattern.fill assignments.termOf = triple.toPattern := fun assignments matched =>
    (pattern.agreesWith_of_matchTriple triple matched).mp assignments.agreesWith_termOf
  refine ⟨⟨fun ⟨assignments, matched⟩ => ⟨_, sound assignments matched⟩, ?_⟩,
    fun assignments matched => ⟨listed assignments matched, (listed assignments matched).nodup,
      sound assignments matched, fun value same reference occurs => ?_⟩⟩
  · rintro ⟨value, same⟩
    cases matched : pattern.matchTriple triple with
    | some assignments => exact ⟨assignments, rfl⟩
    | none =>
      rw [matchTriple_eq] at matched
      obtain ⟨position, member, differs⟩ := exists_ne_of_matchTerms matched nofun
      exact absurd ((pattern.fill_eq_iff triple).mp same position member) differs
  · have agrees := (pattern.agreesWith_of_matchTriple triple matched).mpr same
    exact agrees.eq_termOf (((listed assignments matched).mem_iff reference).mpr occurs)

/-- A variable stands at both ends, and the term for it is a variable of the triple. -/
theorem matchTriple_most_general_repeated :
    let pattern : TriplePattern := ⟨.var ⟨"x"⟩, .var ⟨"p"⟩, .var ⟨"x"⟩⟩
    let knows : Iri := ⟨"http://xmlns.com/foaf/0.1/knows"⟩
    let triple : Triple := ⟨.var ⟨"p"⟩, knows, .var ⟨"p"⟩⟩
    let assignments : Assignments := [(⟨"x"⟩, .var ⟨"p"⟩), (⟨"p"⟩, .iri knows)]
    let other : Variable → Term := fun reference =>
      if reference = ⟨"p"⟩ then .iri knows else .var ⟨"p"⟩
    pattern.matchTriple triple = some assignments ∧
      pattern.fill assignments.termOf = triple.toPattern ∧
      pattern.fill other = triple.toPattern ∧
      other ⟨"x"⟩ = assignments.termOf ⟨"x"⟩ := by
  intro pattern knows triple assignments other
  have matched : pattern.matchTriple triple = some assignments := by decide
  have same : pattern.fill other = triple.toPattern := by decide
  obtain ⟨_, ofMatch⟩ := pattern.matchTriple_most_general triple
  obtain ⟨_, _, filled, agree⟩ := ofMatch assignments matched
  exact ⟨matched, filled, same, agree other same ⟨"x"⟩ (by decide)⟩

end TriplePattern

end QueryAlgebra
