/-
**The history of a registry.**

Functions are registered and taken away one step after the other. Under each key a registry holds what
the last step on the key left there (`get_run`): the function of a registration after which nothing
was done to the key (`Leaves`). Its keys are the keys under which something was left, each of them
once. Tags are compared as terms, so two spellings of a language tag that differ in the case of ASCII
letters are one tag and nothing else is (`tagged_eq_iff`), and a step on one tag does not touch what
is found under another.
-/
import QueryAlgebra.Proofs.Function.Registry
import QueryAlgebra.Proofs.OrderedMap

namespace QueryAlgebra

/-! ### Spellings of a tag -/

namespace Text

/-- Whether a character is an ASCII capital and another one its small letter. -/
def IsCapitalOf (capital letter : Char) : Prop :=
  65 ≤ capital.toNat ∧ capital.toNat ≤ 90 ∧ letter.toNat = capital.toNat + 32

/-- Whether two texts differ in the case of ASCII letters at most. -/
def SameButCase (first second : List Char) : Prop :=
  List.Forall₂ (fun c d => c = d ∨ IsCapitalOf c d ∨ IsCapitalOf d c) first second

theorem toNat_toLower (c : Char) : c.toLower.toNat =
    if 65 ≤ c.toNat ∧ c.toNat ≤ 90 then c.toNat + 32 else c.toNat := by
  unfold Char.toLower
  by_cases upper : c.val ≥ 'A'.val ∧ c.val ≤ 'Z'.val
  · have range : 65 ≤ c.toNat ∧ c.toNat ≤ 90 :=
      ⟨UInt32.le_iff_toNat_le.mp upper.1, UInt32.le_iff_toNat_le.mp upper.2⟩
    have distance : ('a'.val - 'A'.val).toNat = 32 := rfl
    rw [dif_pos upper, if_pos range]
    show (c.val + ('a'.val - 'A'.val)).toNat = c.val.toNat + 32
    rw [UInt32.toNat_add, distance]
    exact Nat.mod_eq_of_lt (Nat.lt_of_le_of_lt (Nat.add_le_add_right range.2 32) (by decide))
  · rw [dif_neg upper, if_neg]
    exact fun range =>
      upper ⟨UInt32.le_iff_toNat_le.mpr range.1, UInt32.le_iff_toNat_le.mpr range.2⟩

theorem toLower_eq_iff {c d : Char} :
    c.toLower = d.toLower ↔ c = d ∨ IsCapitalOf c d ∨ IsCapitalOf d c := by
  unfold IsCapitalOf
  rw [← Char.toNat_inj, ← Char.toNat_inj, toNat_toLower, toNat_toLower]
  split <;> split <;> omega

/-- Texts have the same lower case exactly when they differ in the case of ASCII letters at most. -/
theorem lowerAscii_eq_iff {first second : List Char} :
    lowerAscii first = lowerAscii second ↔ SameButCase first second := by
  unfold SameButCase lowerAscii
  simp only [← toLower_eq_iff]
  rw [← List.forall₂_eq_eq_eq, List.forall₂_map_left_iff, List.forall₂_map_right_iff]

end Text

/-- **Literals with language tags are the same term** when their lexical forms are the same and their
tags differ in the case of ASCII letters at most. -/
theorem Literal.tagged_eq_iff {lexical form tag other : String} :
    tagged lexical tag = tagged form other ↔
      lexical = form ∧ Text.SameButCase tag.toList other.toList := by
  rw [tagged, tagged, Literal.mk.injEq, Annotation.language.injEq, ← Text.lowerAscii_eq_iff,
    String.ofList_inj]

/-- Whether two tags are terms of different kinds, or literals of different datatypes, or literals of
which only one has a language. -/
def Term.DiffersInForm (tag other : Term) : Prop :=
  tag.kind ≠ other.kind ∨ tag.datatype? ≠ other.datatype? ∨
    tag.language?.isSome ≠ other.language?.isSome

namespace Registry

/-! ### Steps -/

/-- A step in the making of a registry. -/
inductive Step
  /-- A function is registered, whatever there was under its key. -/
  | register (tag : Term) (arity : Nat) (function : ExtensionFunction)
  /-- What there is under a key is taken away. -/
  | unregister (tag : Term) (arity : Nat)

namespace Step

/-- The key of a step. -/
def key : Step → FunctionKey
  | register tag arity _ => ⟨tag, arity⟩
  | unregister tag arity => ⟨tag, arity⟩

/-- What a step leaves under its key. -/
def left : Step → Option ExtensionFunction
  | register _ _ function => some function
  | unregister _ _ => none

/-- The registry after a step. -/
def apply (registry : Registry) : Step → Registry
  | register tag arity function => registry.register tag arity function
  | unregister tag arity => (registry.unregister tag arity).2

end Step

/-- The registry after steps. -/
def run (start : Registry) (steps : List Step) : Registry := steps.foldl Step.apply start

/-- The registrations of the standard functions. -/
def standardSteps : List Step :=
  standardFunctions.map fun (name, arity, function) => .register (.iri name) arity function

theorem run_standardSteps : run .empty standardSteps = .standard := List.foldl_map

theorem run_concat (start : Registry) (steps : List Step) (step : Step) :
    run start (steps ++ [step]) = step.apply (run start steps) := List.foldl_concat ..

/-- **A step changes what is found under its key** and nothing else. -/
theorem get_apply (registry : Registry) (step : Step) (tag : Term) (arity : Nat) :
    (step.apply registry).get tag arity =
      if (⟨tag, arity⟩ : FunctionKey) = step.key then step.left else registry.get tag arity := by
  cases step with
  | register other count function => exact OrderedMap.find?_put _ _ _ _
  | unregister other count => exact OrderedMap.find?_erase _ _ _

/-! ### What a history leaves -/

/-- Whether a history leaves a function under a key: it was registered there, and nothing was done to
the key since. -/
def Leaves (history : List Step) (key : FunctionKey) (function : ExtensionFunction) : Prop :=
  ∃ front back, history = front ++ .register key.tag key.arity function :: back ∧
    ∀ step ∈ back, step.key ≠ key

theorem not_leaves_nil {key : FunctionKey} {function : ExtensionFunction} :
    ¬Leaves [] key function := by
  rintro ⟨front, back, same, _⟩
  simp at same

/-- A step on a key decides what is left there, and a step on another key leaves it as it is. -/
theorem leaves_concat {history : List Step} {step : Step} {key : FunctionKey}
    {function : ExtensionFunction} : Leaves (history ++ [step]) key function ↔
      if key = step.key then step.left = some function else Leaves history key function := by
  constructor
  · rintro ⟨front, back, same, untouched⟩
    rcases List.eq_nil_or_concat back with rfl | ⟨others, last, rfl⟩
    · obtain ⟨_, isLast⟩ := List.append_inj' same rfl
      cases isLast
      exact (if_pos rfl).mpr rfl
    · rw [List.concat_eq_append] at same untouched
      rw [← List.cons_append, ← List.append_assoc] at same
      obtain ⟨rfl, isLast⟩ := List.append_inj' same rfl
      cases isLast
      rw [List.forall_mem_append, List.forall_mem_singleton] at untouched
      rw [if_neg (Ne.symm untouched.2)]
      exact ⟨front, others, rfl, untouched.1⟩
  · by_cases same : key = step.key
    · rw [if_pos same]
      intro left
      cases step with
      | register tag arity registered =>
        cases left
        subst same
        exact ⟨history, [], rfl, List.forall_mem_nil _⟩
      | unregister => cases left
    · rw [if_neg same]
      rintro ⟨front, back, rfl, untouched⟩
      refine ⟨front, back ++ [step], by simp, ?_⟩
      rw [List.forall_mem_append, List.forall_mem_singleton]
      exact ⟨untouched, Ne.symm same⟩

/-- **What is found under a key is what the history leaves there.** -/
theorem get_run (steps : List Step) (tag : Term) (arity : Nat) (function : ExtensionFunction) :
    (run .empty steps).get tag arity = some function ↔ Leaves steps ⟨tag, arity⟩ function := by
  induction steps using List.reverseRecOn with
  | nil => exact iff_of_false (fun found => by cases found) not_leaves_nil
  | append_singleton front step inFront =>
    rw [run_concat, get_apply, leaves_concat]
    split
    · exact Iff.rfl
    · exact inFront

/-! ### What a registry tells of its history -/

/-- Whether a registry holds what a history leaves, under the keys where it leaves something. -/
structure Reflects (registry : Registry) (history : List Step) : Prop where
  get : ∀ tag arity function, registry.get tag arity = some function ↔
    Leaves history ⟨tag, arity⟩ function
  contains : ∀ tag arity, registry.contains tag arity = true ↔
    ∃ function, registry.get tag arity = some function
  removed : ∀ tag arity, (registry.unregister tag arity).1 = registry.get tag arity
  kept : ∀ tag arity other count, (registry.unregister tag arity).2.get other count =
    if other = tag ∧ count = arity then none else registry.get other count
  mem_keys : ∀ key, key ∈ registry.keys ↔ ∃ function, Leaves history key function
  nodup_keys : registry.keys.Nodup
  size : registry.size = registry.keys.length

/-- **A registry that is made in steps reflects them.** -/
theorem reflects_run (steps : List Step) : (run .empty steps).Reflects steps where
  get := get_run steps
  contains _ _ := Option.isSome_iff_exists
  removed _ _ := rfl
  kept tag arity other count := by
    have changed := get_apply (run .empty steps) (.unregister tag arity) other count
    simp only [Step.key, FunctionKey.mk.injEq] at changed
    exact changed
  mem_keys key := by
    exact OrderedMap.mem_keys_iff.trans (exists_congr fun function => get_run steps _ _ function)
  nodup_keys := OrderedMap.nodup_keys _
  size := (OrderedMap.length_keys _).symm

/-- A step on one key does not change what is found under another. -/
theorem get_apply_of_ne {registry : Registry} {step : Step} {tag : Term} {arity : Nat}
    (other : step.key ≠ ⟨tag, arity⟩) :
    (step.apply registry).get tag arity = registry.get tag arity := by
  rw [get_apply, if_neg (Ne.symm other)]

theorem ne_of_differsInForm {tag other : Term} (differs : tag.DiffersInForm other) : tag ≠ other := by
  rintro rfl
  rcases differs with differs | differs | differs <;> exact differs rfl

/-- **A registry holds what was last left under each key**, whether it was empty at first or had the
standard functions. Two spellings of a language make the same key when they differ in the case of
ASCII letters at most; and a step leaves alone what is found under a tag of another kind or datatype,
under one that alone has a language or alone has none, and under another number of arguments. -/
theorem run_keeps_last (steps : List Step) :
    (run .empty steps).Reflects steps ∧
    (run .standard steps).Reflects (standardSteps ++ steps) ∧
    (∀ (lexical form spelling other : String) (arity count : Nat),
      (⟨.literal (.tagged lexical spelling), arity⟩ : FunctionKey) =
          ⟨.literal (.tagged form other), count⟩ ↔
        lexical = form ∧ Text.SameButCase spelling.toList other.toList ∧ arity = count) ∧
    ∀ (registry : Registry) (step : Step) (tag : Term) (arity : Nat),
      step.key.tag.DiffersInForm tag ∨ step.key.arity ≠ arity →
      (step.apply registry).get tag arity = registry.get tag arity := by
  have whole : run .standard steps = run .empty (standardSteps ++ steps) := by
    rw [← run_standardSteps]
    exact List.foldl_append.symm
  refine ⟨reflects_run steps, whole ▸ reflects_run _, ?_, ?_⟩
  · intro lexical form spelling other arity count
    rw [FunctionKey.mk.injEq, Term.literal.injEq, Literal.tagged_eq_iff, and_assoc]
  · rintro registry step tag arity (differs | differs)
    · exact get_apply_of_ne fun same => ne_of_differsInForm differs (congrArg FunctionKey.tag same)
    · exact get_apply_of_ne fun same => differs (congrArg FunctionKey.arity same)

/-- A function that is registered under one spelling of a language is found under another, as long as
no more than the same tag with another number of arguments was taken away; and it is not found under
the text without a language. -/
theorem run_keeps_last_spelling :
    (run .standard [.register (.literal (.tagged "x" "EN")) 0 Logic.not,
        .unregister (.literal (.tagged "x" "en")) 1]).get (.literal (.tagged "x" "eN")) 0 =
      some Logic.not ∧
    (Term.literal (.tagged "x" "EN")).DiffersInForm (.literal (.simple "x")) ∧
    ((Step.register (.literal (.tagged "x" "EN")) 0 Logic.not).apply .standard).get
      (.literal (.simple "x")) 0 = Registry.standard.get (.literal (.simple "x")) 0 := by
  have differs : (Term.literal (.tagged "x" "EN")).DiffersInForm (.literal (.simple "x")) :=
    .inr (.inr (by decide))
  have left : Leaves (standardSteps ++ [.register (.literal (.tagged "x" "EN")) 0 Logic.not,
      .unregister (.literal (.tagged "x" "en")) 1]) ⟨.literal (.tagged "x" "eN"), 0⟩ Logic.not := by
    refine ⟨standardSteps, [.unregister (.literal (.tagged "x" "en")) 1], ?_, ?_⟩
    · have same : Term.literal (.tagged "x" "EN") = .literal (.tagged "x" "eN") := by decide
      rw [same]
    · exact List.forall_mem_singleton.mpr (by decide)
  exact ⟨((run_keeps_last _).2.1.get _ _ _).mpr left, differs,
    (run_keeps_last []).2.2.2 _ _ _ _ (.inl differs)⟩

end Registry

end QueryAlgebra
