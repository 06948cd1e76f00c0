/-
**Computations that may fail, one after the other.**

What a success and what an error of a sequence of two say about its parts. The two statements about a
single fault, that a sequence does not have it (`bind_ne_error`) and that it stays as it is wherever
it does not have it (`bind_stable`), are for faults that cut a computation off.
-/
namespace QueryAlgebra

variable {ε α β : Type} {first other : Except ε α} {next following : α → Except ε β}

/-- A sequence succeeds when both parts do. -/
theorem bind_eq_ok {result : β} :
    (first >>= next) = .ok result ↔ ∃ value, first = .ok value ∧ next value = .ok result := by
  cases first with
  | error error =>
    constructor
    · intro same
      cases same
    · rintro ⟨_, same, _⟩
      cases same
  | ok value =>
    constructor
    · exact fun same => ⟨value, rfl, same⟩
    · rintro ⟨_, same, succeeds⟩
      cases same
      exact succeeds

/-- A changed result is the change of a result. -/
theorem map_eq_ok {change : α → β} {result : β} :
    (change <$> first) = .ok result ↔ ∃ value, first = .ok value ∧ change value = result := by
  cases first with
  | error error =>
    constructor
    · exact fun same => by cases same
    · rintro ⟨_, same, _⟩
      cases same
  | ok value =>
    constructor
    · exact fun same => ⟨value, rfl, Except.ok.inj same⟩
    · rintro ⟨_, same, rfl⟩
      cases same
      rfl

/-- A changed result has the error of the result. -/
theorem map_eq_error {change : α → β} {error : ε} :
    (change <$> first) = .error error ↔ first = .error error := by
  cases first with
  | error fault => exact ⟨fun same => by cases same; rfl, fun same => by cases same; rfl⟩
  | ok value => constructor <;> exact fun same => by cases same

/-- The error of a sequence is that of its first part or, where this succeeds, of its second. -/
theorem bind_eq_error {error : ε} :
    (first >>= next) = .error error ↔
      first = .error error ∨ ∃ value, first = .ok value ∧ next value = .error error := by
  cases first with
  | error fault =>
    constructor
    · intro same
      cases same
      exact .inl rfl
    · rintro (same | ⟨_, same, _⟩)
      · cases same
        rfl
      · cases same
  | ok value =>
    constructor
    · exact fun same => .inr ⟨value, rfl, same⟩
    · rintro (same | ⟨_, same, fails⟩)
      · cases same
      · cases same
        exact fails

/-- A sequence does not have a fault that neither part has. -/
theorem bind_ne_error {fault : ε} (firstFree : first ≠ .error fault)
    (nextFree : ∀ value, first = .ok value → next value ≠ .error fault) :
    (first >>= next) ≠ .error fault := by
  intro same
  rcases bind_eq_error.mp same with same | ⟨value, succeeds, same⟩
  · exact firstFree same
  · exact nextFree value succeeds same

/-- Where a sequence does not have a fault it keeps its outcome under changes that keep the outcomes
of its parts where they do not have the fault. -/
theorem bind_stable {fault : ε} (firstStable : first ≠ .error fault → other = first)
    (nextStable : ∀ value, next value ≠ .error fault → following value = next value)
    (free : (first >>= next) ≠ .error fault) : (other >>= following) = (first >>= next) := by
  have same : other = first := firstStable fun failed => free (bind_eq_error.mpr (.inl failed))
  rw [same]
  cases succeeds : first with
  | error error => rfl
  | ok value =>
    rw [succeeds] at free
    exact nextStable value free

end QueryAlgebra
