/-
**No document is too deep to be evaluated.**

At most 127 containers stand in each other in a document, and each step into an expression uses up
two of them (`Expr.depth_of_ofJson`), so an expression that is read is at most 64 levels deep. The
limit where none is chosen is 256: no evaluation of documents meets it. The tower of 63 calls in
place of a tag is read and has all of the 64 levels.
-/
import QueryAlgebra.Proofs.Command.Report
import QueryAlgebra.Proofs.Evaluation.Limit
import QueryAlgebra.Proofs.Filter

namespace QueryAlgebra

/-! ### Documents of expressions -/

theorem Expr.depth_of_ofText {text : List Char} {expr : Expr}
    (accepted : Document.ofText ofJson text = .ok expr) : expr.depth ≤ 64 := by
  obtain ⟨value, _, isRead⟩ := Document.ofText_eq_ok.mp accepted
  have fits : 2 * expr.depth ≤ 127 + 1 := depth_of_ofJson isRead
  omega

/-! ### Evaluations within the limit -/

namespace Evaluator

variable {options : Options} {expr : Expr}

/-- The standard evaluator does not meet a limit that the expression is within. -/
theorem evaluate_ne_limit {bindings : Bindings} (fits : expr.depth ≤ options.maxDepth) :
    standard.evaluate options bindings expr ≠ .error .recursionLimit := by
  rw [evaluate_of_depth_le fits]
  exact Registry.meaning_ne_limit Registry.standard_sparesLimit expr

theorem condition_ne_limit {bindings : Bindings} (fits : expr.depth ≤ options.maxDepth) :
    standard.condition options bindings expr ≠ .error .recursionLimit := by
  unfold condition
  refine bind_ne_error (evaluate_ne_limit fits) fun term _ => ?_
  unfold Term.condition
  cases term.booleanValue? <;> exact fun same => by cases same

/-- A filter by a condition within the limit does not meet it under either policy. -/
theorem filter_ne_limit {solutions : Solutions} (fits : expr.depth ≤ options.maxDepth) :
    standard.filter options solutions (.expression expr) ≠ .error .recursionLimit := by
  show standard.filterBy options expr solutions ≠ _
  intro fails
  cases policy : options.filterErrors with
  | exclude =>
    rw [filterBy_exclude policy] at fails
    cases fails
  | propagate =>
    obtain ⟨_, solution, _, _, _, failed⟩ := (filterBy_eq_error_iff policy).mp fails
    exact condition_ne_limit fits failed

end Evaluator

namespace Command

/-! ### Commands -/

/-- The error of an evaluation that a failure tells of. -/
def Failure.evalError? : Failure → Option EvalError
  | evaluation _ error => some error
  | filtering _ error => some error
  | unreadable _ _ => none
  | unparsable _ _ _ => none
  | uncreatable _ => none

/-- The tasks that evaluate within the limit where none is chosen. -/
inductive Task.KeepsLimit : Task → Prop
  | eval (expression : String) (bindings : Option String) :
    KeepsLimit (.eval expression bindings none)
  | filter (expression solutions : String) (propagateErrors : Bool) :
    KeepsLimit (.filter expression solutions propagateErrors)

/-- An expression in a file is within the limit where none is chosen. -/
theorem depth_of_leadsTo {read : String → Option String} {path : String} {expr : Expr}
    (isExpr : LeadsTo read Expr.ofJson path expr) {options : Options}
    (keeps : options.maxDepth = Options.default.maxDepth) : expr.depth ≤ options.maxDepth := by
  obtain ⟨_, _, accepted⟩ := isExpr
  rw [keeps]
  exact Nat.le_trans (Expr.depth_of_ofText accepted) (by decide)

/-- A task that keeps the limit has no failure that tells of it. -/
theorem Fails.evalError_ne_limit {read : String → Option String} {task : Task} {failure : Failure}
    (fails : Fails read task failure) (keeps : task.KeepsLimit) :
    failure.evalError? ≠ some .recursionLimit := by
  cases fails with
  | unread needed isUnread => cases isUnread <;> exact fun same => by cases same
  | evaluation isExpr isSolution noValue =>
    cases keeps
    have fits := @depth_of_leadsTo _ _ _ isExpr (optionsWithin none) rfl
    intro same
    cases same
    exact Evaluator.evaluate_ne_limit fits noValue
  | @filtering _ _ propagateErrors _ _ _ isExpr isSequence noneKept =>
    have fits := @depth_of_leadsTo _ _ _ isExpr (optionsOfFilter propagateErrors) rfl
    intro same
    cases same
    exact Evaluator.filter_ne_limit fits noneKept

/-- **Documents do not exceed the limit where none is chosen.** What is read as an expression is at
most 64 levels deep, and so no evaluation and no filter of documents is reported to meet the limit,
whatever the files hold. -/
theorem documents_keep_limit :
    (∀ (text : List Char) (expr : Expr), Document.ofText Expr.ofJson text = .ok expr →
      expr.depth ≤ 64) ∧
    ∀ (read : String → Option String) (invocation : Invocation) (failure : Failure),
      invocation.task.KeepsLimit → (invocation.report read).result = .error failure →
      failure.evalError? ≠ some .recursionLimit :=
  ⟨fun _ _ accepted => Expr.depth_of_ofText accepted, fun _ _ _ keeps reported =>
    (fails_of_report reported).evalError_ne_limit keeps⟩

/-! ### The deepest document -/

/-- Calls without arguments, each in place of the tag of the next, of a variable. -/
def tower : Nat → Expr
  | 0 => .var ⟨"x"⟩
  | height + 1 => .compound (tower height) [] false

theorem depth_tower (height : Nat) : (tower height).depth = height + 1 := by
  induction height with
  | zero => exact Expr.depth_of_leaf rfl
  | succ height below =>
    rw [Expr.depth_eq]
    show 1 + max (tower height).depth 0 = _
    omega

theorem tower_isValid (height : Nat) : (tower height).IsValid := by
  induction height with
  | zero => exact Expr.isValid_var _
  | succ height below => exact Expr.isValid_compound.mpr ⟨below, List.forall_mem_nil _⟩

theorem tower_isBare (height : Nat) : (tower height).IsBare := by
  induction height with
  | zero =>
    refine (Expr.isBare_iff _).mpr ⟨fun reference same => ?_, List.forall_mem_nil _⟩
    cases same
    decide
  | succ height below => exact Expr.isBare_compound.mpr ⟨below, List.forall_mem_nil _⟩

theorem nesting_tower (height : Nat) : (tower height).toJson.nesting ≤ 2 * height + 1 := by
  induction height with
  | zero => decide
  | succ height below =>
    refine Json.nesting_ofMembers_le.mpr
      ⟨2 * height + 2, by omega, List.forall_mem_singleton.mpr ?_⟩
    refine Json.nesting_ofMembers_le.mpr ⟨2 * height + 1, by omega, ?_⟩
    refine List.forall_mem_cons.mpr ⟨below, List.forall_mem_cons.mpr ⟨?_, ?_⟩⟩
    · exact Json.nesting_ofItems_le.mpr ⟨2 * height, by omega, List.forall_mem_nil _⟩
    · exact List.forall_mem_singleton.mpr (Nat.zero_le _)

/-- The innermost tag of a tower has no value where nothing is bound. -/
theorem meaning_tower (registry : Registry) (height : Nat) :
    registry.meaning Solution.empty.bindings (tower height) =
      .error (.unboundVariable "x" false) := by
  induction height with
  | zero => rfl
  | succ height below =>
    rw [tower, Registry.meaning, below]
    rfl

/-- The file of the tower with 64 levels. -/
def towerFile (path : String) : Option String :=
  if path = "tower.json" then some (tower 63).toJson.text else none

theorem towerFile_leadsTo : LeadsTo towerFile Expr.ofJson "tower.json" (tower 63) :=
  leadsTo_text (tower_isValid 63) (tower_isBare 63) (nesting_tower 63) rfl

theorem documents_keep_limit_tower :
    (tower 63).depth = 64 ∧
      (∃ text, Document.ofText Expr.ofJson text = .ok (tower 63) ∧ (tower 63).depth ≤ 64) ∧
      ∃ (invocation : Invocation) (failure : Failure), invocation.task.KeepsLimit ∧
        (invocation.report towerFile).result = .error failure ∧
        failure.evalError? ≠ some .recursionLimit := by
  obtain ⟨content, _, isRead⟩ := towerFile_leadsTo
  let invocation : Invocation := ⟨false, .text, none, false, .eval "tower.json" none none⟩
  have noValue : Evaluator.standard.evaluate (optionsWithin none) Solution.empty.bindings
      (tower 63) = .error (.unboundVariable "x" false) := by
    have fits := @depth_of_leadsTo _ _ _ towerFile_leadsTo (optionsWithin none) rfl
    rw [Evaluator.evaluate_of_depth_le fits]
    exact meaning_tower _ 63
  have fails : Fails towerFile invocation.task _ := .evaluation towerFile_leadsTo rfl noValue
  obtain ⟨failure, reported⟩ := Fails.report fails
  have keeps : invocation.task.KeepsLimit := .eval "tower.json" none
  exact ⟨depth_tower 63, ⟨_, isRead, documents_keep_limit.1 _ _ isRead⟩, invocation, failure, keeps,
    reported, documents_keep_limit.2 towerFile invocation failure keeps reported⟩

end Command

end QueryAlgebra
