/-
**The history of a solution.**

A solution that is made of pairs and changed step by step is the solution of its history, the list of
what each variable was given (`run_eq_ofEntries`). It *reflects* this history (`reflects_ofEntries`):
it lists each variable where its name first came, in the state that the last entry of the variable
gives it, and every question that is asked of it is answered by that state. Solutions agree exactly
when every variable is in the same state in both (`agrees_iff_states`).
-/
import Mathlib.Data.Finset.Dedup
import Mathlib.Data.Finset.Card
import QueryAlgebra.Proofs.Solution

namespace QueryAlgebra.Solution

/-! ### Histories -/

/-- A step in the making of a solution; the name of a variable may be written with its sigil. -/
inductive Step
  /-- The variable is bound to a value, whatever it was before. -/
  | bind (name : String) (value : Term)
  /-- The variable is listed without a value, whatever it was before. -/
  | declare (name : String)
  deriving DecidableEq, Repr

namespace Step

/-- The variable of a step. -/
def reference : Step → Variable
  | bind name _ => .ofName name
  | declare name => .ofName name

/-- What a step gives its variable. -/
def given : Step → Option Term
  | bind _ value => some value
  | declare _ => none

/-- The solution after a step. -/
def apply (solution : Solution) : Step → Solution
  | bind name value => solution.bind (.ofName name) value
  | declare name => solution.declare (.ofName name)

/-- A step puts what it gives its variable. -/
theorem apply_eq (solution : Solution) (step : Step) :
    step.apply solution = ⟨solution.map.put step.reference step.given⟩ := by
  cases step with
  | bind name value => rfl
  | declare name => rfl

end Step

/-- What each variable was given, in order. -/
abbrev History := List (Variable × Option Term)

namespace History

/-- The history of a solution that is made of pairs and then changed in steps. -/
def ofRun (start : List (String × Term)) (steps : List Step) : History :=
  start.map (fun pair => (Variable.ofName pair.1, some pair.2)) ++
    steps.map fun step => (step.reference, step.given)

/-- The variables of the entries, with repetitions. -/
def vars (history : History) : List Variable := history.map Prod.fst

/-- What a variable was last given, if it was given anything. -/
def last (history : History) (reference : Variable) : Option (Option Term) :=
  history.reverse.lookup reference

end History

/-- The solution of pairs that is then changed in steps. -/
def run (start : List (String × Term)) (steps : List Step) : Solution :=
  steps.foldl Step.apply
    (ofEntries (start.map fun pair => (Variable.ofName pair.1, some pair.2)))

/-- Steps put what they give their variables, one after the other. -/
theorem foldl_apply (solution : Solution) (steps : List Step) :
    steps.foldl Step.apply solution =
      ⟨solution.map.putAll (steps.map fun step => (step.reference, step.given))⟩ := by
  induction steps generalizing solution with
  | nil => rfl
  | cons step rest inRest =>
    rw [List.foldl_cons, inRest, Step.apply_eq]
    rfl

/-- **The solution after a run is that of the history of the run.** -/
theorem run_eq_ofEntries (start : List (String × Term)) (steps : List Step) :
    run start steps = ofEntries (History.ofRun start steps) := by
  rw [run, foldl_apply]
  exact congrArg Solution.mk List.foldl_append.symm

/-! ### States of variables -/

section State

variable (solution : Solution) (reference : Variable)

/-- Whether exactly one of three holds of a variable: it is bound, it is listed without a value, or
it is not listed. -/
def HasOneState : Prop :=
  (solution.isBound reference = true ∧ solution.isExplicitlyUnbound reference = false ∧
      solution.contains reference = true) ∨
    (solution.isBound reference = false ∧ solution.isExplicitlyUnbound reference = true ∧
      solution.contains reference = true) ∨
    (solution.isBound reference = false ∧ solution.isExplicitlyUnbound reference = false ∧
      solution.contains reference = false)

theorem hasOneState : solution.HasOneState reference := by
  unfold HasOneState isBound lookup isExplicitlyUnbound contains OrderedMap.contains
  rcases solution.map.find? reference with _ | _ | value
  · exact .inr (.inr ⟨rfl, rfl, rfl⟩)
  · exact .inr (.inl ⟨rfl, rfl, rfl⟩)
  · exact .inl ⟨rfl, rfl, rfl⟩

/-- A variable is bound exactly when it has a value. -/
theorem isBound_iff : solution.isBound reference = true ↔
    ∃ value, solution.lookup reference = some value :=
  Option.isSome_iff_exists

theorem isExplicitlyUnbound_iff : solution.isExplicitlyUnbound reference = true ↔
    solution.map.find? reference = some none :=
  beq_iff_eq

/-- What is found at a variable follows from its value and from whether it is listed without one. -/
theorem find?_eq : solution.map.find? reference =
    match solution.lookup reference with
    | some value => some (some value)
    | none => if solution.isExplicitlyUnbound reference then some none else none := by
  unfold isExplicitlyUnbound lookup
  rcases solution.map.find? reference with _ | _ | value <;> rfl

end State

/-- **Solutions agree when every variable is in the same state in both**, whatever their orders. -/
theorem agrees_iff_states {solution other : Solution} : solution.agrees other = true ↔
    ∀ reference, solution.lookup reference = other.lookup reference ∧
      solution.isExplicitlyUnbound reference = other.isExplicitlyUnbound reference := by
  rw [agrees_iff_find?]
  refine forall_congr' fun reference => ⟨fun same => ?_, fun ⟨sameValue, sameState⟩ => ?_⟩
  · unfold lookup isExplicitlyUnbound
    rw [same]
    exact ⟨rfl, rfl⟩
  · rw [find?_eq, find?_eq, sameValue, sameState]

/-- The bound variables are those of the listed ones that have a value, in the same order. -/
theorem bound_eq (solution : Solution) : solution.bound =
    solution.vars.filterMap fun reference =>
      (solution.lookup reference).map fun value => (reference, value) := by
  unfold bound vars OrderedMap.keys
  rw [List.filterMap_map]
  refine List.filterMap_congr fun entry member => ?_
  have found : solution.map.find? entry.1 = some entry.2 := OrderedMap.find?_of_mem member
  show _ = (solution.map.find? entry.1).join.map _
  rw [found, Option.join_some]

/-- Binding or declaring a listed variable leaves the order as it is. -/
theorem vars_apply_of_mem {solution : Solution} {step : Step}
    (listed : step.reference ∈ solution.vars) : (step.apply solution).vars = solution.vars := by
  rw [Step.apply_eq]
  exact (OrderedMap.keys_put _ _ _).trans (if_pos listed)

/-! ### What a solution tells of its history -/

/-- Whether a solution lists the variables of a history in the order in which they first came, each
in the state that was last given to it. -/
structure Reflects (solution : Solution) (history : History) : Prop where
  mem_vars : ∀ reference, reference ∈ solution.vars ↔ reference ∈ history.vars
  sorted : solution.vars.Pairwise fun first second =>
    history.vars.idxOf first < history.vars.idxOf second
  size : solution.size = history.vars.toFinset.card
  lookup : ∀ reference value, solution.lookup reference = some value ↔
    history.last reference = some (some value)
  unbound : ∀ reference, solution.isExplicitlyUnbound reference = true ↔
    history.last reference = some none
  listed : ∀ reference, solution.contains reference = true ↔ history.last reference ≠ none

section Reflects

variable (history : History)

theorem find?_ofEntries (reference : Variable) :
    (ofEntries history).map.find? reference = history.last reference :=
  (OrderedMap.find?_putAll history reference).trans (Option.or_none)

theorem mem_vars_ofEntries (reference : Variable) :
    reference ∈ (ofEntries history).vars ↔ reference ∈ history.vars :=
  OrderedMap.mem_keys_putAll.trans (or_iff_right List.not_mem_nil)

theorem size_ofEntries : (ofEntries history).size = history.vars.toFinset.card := by
  have same : (ofEntries history).vars.toFinset = history.vars.toFinset := by
    ext reference
    rw [List.mem_toFinset, List.mem_toFinset, mem_vars_ofEntries]
  have distinct : (ofEntries history).vars.Nodup := OrderedMap.nodup_keys _
  rw [← same, List.toFinset_card_of_nodup distinct]
  exact (OrderedMap.length_keys _).symm

/-- **The solution of a history reflects it.** -/
theorem reflects_ofEntries : (ofEntries history).Reflects history where
  mem_vars := mem_vars_ofEntries history
  sorted := OrderedMap.keys_putAll_sorted history
  size := size_ofEntries history
  lookup reference value := by
    unfold lookup
    rw [find?_ofEntries, Option.join_eq_some_iff]
  unbound reference := by
    rw [isExplicitlyUnbound_iff, find?_ofEntries]
  listed reference := by
    unfold contains OrderedMap.contains
    rw [find?_ofEntries, Option.isSome_iff_ne_none]

end Reflects

/-- **A solution is faithful to its history.** However it is made of pairs and changed in steps, it
reflects what was done; every variable is in exactly one state, and the look-ups give a value exactly
when it is bound; the bound variables stand in the order of the variables; a step on a listed
variable moves nothing; and it is equal to the solutions in which each variable is in the same
state. -/
theorem run_faithful (start : List (String × Term)) (steps : List Step) :
    (run start steps).Reflects (History.ofRun start steps) ∧
    (∀ reference, (run start steps).HasOneState reference ∧
      ((run start steps).isBound reference = true ↔
        ∃ value, (run start steps).lookup reference = some value)) ∧
    (∀ name, (run start steps).isBound (.ofName name) = true ↔
      ∃ value, (run start steps).get name = some value) ∧
    (run start steps).bound = (run start steps).vars.filterMap (fun reference =>
      ((run start steps).lookup reference).map fun value => (reference, value)) ∧
    (∀ step : Step, step.reference ∈ (run start steps).vars →
      (run start (steps ++ [step])).vars = (run start steps).vars) ∧
    ∀ other : Solution, (run start steps).agrees other = true ↔
      ∀ reference, (run start steps).lookup reference = other.lookup reference ∧
        (run start steps).isExplicitlyUnbound reference = other.isExplicitlyUnbound reference := by
  refine ⟨?_, fun reference => ⟨hasOneState _ _, isBound_iff _ _⟩, fun name => isBound_iff _ _,
    bound_eq _, fun step listed => ?_, fun other => agrees_iff_states⟩
  · rw [run_eq_ofEntries]
    exact reflects_ofEntries _
  · have grown : run start (steps ++ [step]) = step.apply (run start steps) := List.foldl_concat ..
    rw [grown]
    exact vars_apply_of_mem listed

/-- A variable that is bound, then listed without a value, then bound again keeps its place. -/
theorem run_faithful_rebound :
    (Step.bind "$a" (.ofInt 2)).reference ∈
      (run [("?a", .ofInt 1)] [.declare "b", .declare "a"]).vars ∧
    (run [("?a", .ofInt 1)] ([.declare "b", .declare "a"] ++ [.bind "$a" (.ofInt 2)])).vars =
      (run [("?a", .ofInt 1)] [.declare "b", .declare "a"]).vars := by
  have listed : (Step.bind "$a" (.ofInt 2)).reference ∈
      (run [("?a", .ofInt 1)] [.declare "b", .declare "a"]).vars := by
    decide
  exact ⟨listed, (run_faithful _ _).2.2.2.2.1 _ listed⟩

end QueryAlgebra.Solution
