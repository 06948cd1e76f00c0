/-
**What a command reports.**

`Computes` says which text is the result of a task, in terms of what its documents are read as, and
`Fails` which failures a task has: a document that is not there or is refused, or an evaluation
without a value. What is reported as the result is what is computed (`report_eq_ok`), and a failure
is reported exactly where the task has one (`fails_of_report`, `Fails.report`).
-/
import QueryAlgebra.Proofs.Command.Rendering
import QueryAlgebra.Proofs.Document.Roundtrip
import QueryAlgebra.Proofs.Document.Screening

namespace QueryAlgebra.Command

variable {read : String → Option String} {role : DocumentRole} {path : String}
  {failure : Failure} {content : String}

/-! ### Documents -/

/-- The form of the documents of a role. -/
def DocumentRole.form : DocumentRole → Document.Form
  | expression => .expression
  | bindings => .solution
  | solutions => .solutions
  | pattern => .pattern

/-- The documents that a task needs, in the order in which it reads them. -/
def Task.documents : Task → List (DocumentRole × String)
  | eval expression bindings _ =>
    (.expression, expression) :: bindings.toList.map (DocumentRole.bindings, ·)
  | filter expression solutions _ => [(.expression, expression), (.solutions, solutions)]
  | sse file false => [(.expression, file)]
  | sse file true => [(.pattern, file)]

/-- The documents of a task are at the paths of its inputs. -/
theorem Task.documents_paths (task : Task) : task.documents.map Prod.snd = task.inputs := by
  cases task with
  | eval expression bindings maxDepth => cases bindings <;> rfl
  | filter expression solutions propagateErrors => rfl
  | sse file pattern => cases pattern <;> rfl

section Documents

variable {α : Type} {decode : (levels : Nat) → Json → Decoded α} {value : α}

/-- Whether the file at a path is read as a value. -/
def LeadsTo (read : String → Option String) (decode : (levels : Nat) → Json → Decoded α)
    (path : String) (value : α) : Prop :=
  ∃ content, read path = some content ∧ Document.ofText decode content.toList = .ok value

/-- A file is read as one value. -/
theorem LeadsTo.unique {other : α} (first : LeadsTo read decode path value)
    (second : LeadsTo read decode path other) : value = other := by
  obtain ⟨content, isContent, isValue⟩ := first
  obtain ⟨_, isOther, isSecond⟩ := second
  cases isContent.symm.trans isOther
  exact Except.ok.inj (isValue.symm.trans isSecond)

theorem readDocument_eq_ok :
    readDocument read role decode path = .ok value ↔ LeadsTo read decode path value := by
  unfold readDocument LeadsTo
  cases read path with
  | none => simp
  | some content =>
    simp only [Option.some.injEq, exists_eq_left']
    cases Document.ofText decode content.toList <;> simp

/-- What a document that cannot be read is reported as. -/
inductive Unread (read : String → Option String) (decode : (levels : Nat) → Json → Decoded α)
    (role : DocumentRole) (path : String) : Failure → Prop
  | unreadable (absent : read path = none) : Unread read decode role path (.unreadable role path)
  | unparsable {content : String} {fault : DecodeFault} (present : read path = some content)
    (refused : Document.ofText decode content.toList = .error fault) :
    Unread read decode role path (.unparsable role path fault)

theorem readDocument_eq_error : readDocument read role decode path = .error failure ↔
    Unread read decode role path failure := by
  constructor
  · intro fails
    unfold readDocument at fails
    split at fails
    · rename_i absent
      cases fails
      exact .unreadable absent
    · rename_i content present
      split at fails
      · cases fails
      · rename_i fault refused
        cases fails
        exact .unparsable present refused
  · intro unread
    unfold readDocument
    cases unread with
    | unreadable absent => rw [absent]
    | unparsable present refused =>
      rw [present]
      dsimp only
      rw [refused]

/-- A document that is read is not reported. -/
theorem LeadsTo.not_unread (leadsTo : LeadsTo read decode path value) :
    ¬Unread read decode role path failure := by
  intro unread
  have isRead : readDocument read role decode path = .ok value := readDocument_eq_ok.mpr leadsTo
  rw [readDocument_eq_error.mpr unread] at isRead
  cases isRead

end Documents

/-- Whether the file at a path holds a JSON value and nothing else. -/
def IsJson (read : String → Option String) (path : String) (value : Json) : Prop :=
  ∃ content, read path = some content ∧ Json.read content.toList = ⟨some value, true⟩

theorem leadsTo_iff {α : Type} {decode : (levels : Nat) → Json → Decoded α} {decoded : α} :
    LeadsTo read decode path decoded ↔
      ∃ value, IsJson read path value ∧ decode Document.greatestLevels value = .ok decoded := by
  unfold LeadsTo IsJson
  simp only [Document.ofText_eq_ok]
  constructor
  · rintro ⟨content, isContent, value, isValue, isRead⟩
    exact ⟨value, ⟨content, isContent, isValue⟩, isRead⟩
  · rintro ⟨value, ⟨content, isContent, isValue⟩, isRead⟩
    exact ⟨content, isContent, value, isValue, isRead⟩

/-- A file that a value was written to holds it. -/
theorem isJson_text {value : Json} (built : value.IsBuilt) (written : read path = some value.text) :
    IsJson read path value :=
  ⟨_, written, by rw [Json.text, String.toList_ofList, Json.read_print built]⟩

/-- An expression is read from the file that it was written to. -/
theorem leadsTo_text {expr : Expr} (valid : expr.IsValid) (bare : expr.IsBare)
    (fits : expr.toJson.nesting ≤ Document.greatestLevels)
    (written : read path = some expr.toJson.text) : LeadsTo read Expr.ofJson path expr :=
  leadsTo_iff.mpr
    ⟨_, isJson_text expr.isBuilt_toJson written, Expr.ofJson_toJson valid bare fits⟩

/-! ### Reports on what is needed first -/

section Needed

variable {α : Type} {needed : Except Failure α} {report : α → Report}

theorem reportOn_eq_ok : (reportOn needed report).result = .ok content ↔
    ∃ value, needed = .ok value ∧ (report value).result = .ok content := by
  cases needed <;> simp [reportOn]

theorem reportOn_eq_error : (reportOn needed report).result = .error failure ↔
    needed = .error failure ∨
      ∃ value, needed = .ok value ∧ (report value).result = .error failure := by
  cases needed <;> simp [reportOn]

end Needed

/-! ### Results and failures of tasks -/

/-- The solution that a document of bindings stands for; without one, nothing is bound. -/
def Binds (read : String → Option String) : Option String → Solution → Prop
  | none, solution => solution = .empty
  | some path, solution => LeadsTo read Solution.ofJson path solution

/-- The options of an evaluation with a depth limit, which may be left out. -/
def optionsWithin (maxDepth : Option Nat) : Options :=
  { maxDepth := maxDepth.getD Options.default.maxDepth }

/-- The options of a filter that propagates errors or drops what fails. -/
def optionsOfFilter (propagateErrors : Bool) : Options :=
  { filterErrors := if propagateErrors then .propagate else .exclude }

/-- The text that a task results in, in a format. -/
inductive Computes (read : String → Option String) (format : OutputFormat) : Task → String → Prop
  | eval {expression : String} {bindings : Option String} {maxDepth : Option Nat} {expr : Expr}
    {solution : Solution} {term : Term} {content : String}
    (isExpr : LeadsTo read Expr.ofJson expression expr) (isSolution : Binds read bindings solution)
    (isValue : Evaluator.standard.evaluate (optionsWithin maxDepth) solution.bindings expr =
      .ok term) (shows : ShowsTerm term format content) :
    Computes read format (.eval expression bindings maxDepth) content
  | filter {expression solutions : String} {propagateErrors : Bool} {expr : Expr}
    {sequence kept : Solutions} {content : String}
    (isExpr : LeadsTo read Expr.ofJson expression expr)
    (isSequence : LeadsTo read Solutions.ofJson solutions sequence)
    (isKept : Evaluator.standard.filter (optionsOfFilter propagateErrors) sequence
      (.expression expr) = .ok kept) (shows : ShowsSolutions kept format content) :
    Computes read format (.filter expression solutions propagateErrors) content
  | sseOfExpr {file : String} {expr : Expr} (isExpr : LeadsTo read Expr.ofJson file expr) :
    Computes read format (.sse file false) expr.sseText
  | sseOfPattern {file : String} {pattern : Pattern}
    (isPattern : LeadsTo read Pattern.ofJson file pattern) :
    Computes read format (.sse file true) pattern.sseText

/-- The failures that a task has. -/
inductive Fails (read : String → Option String) : Task → Failure → Prop
  | unread {task : Task} {role : DocumentRole} {path : String} {failure : Failure}
    (needed : (role, path) ∈ task.documents)
    (isUnread : Unread read role.form.decode role path failure) : Fails read task failure
  | evaluation {expression : String} {bindings : Option String} {maxDepth : Option Nat}
    {expr : Expr} {solution : Solution} {error : EvalError}
    (isExpr : LeadsTo read Expr.ofJson expression expr) (isSolution : Binds read bindings solution)
    (noValue : Evaluator.standard.evaluate (optionsWithin maxDepth) solution.bindings expr =
      .error error) :
    Fails read (.eval expression bindings maxDepth) (.evaluation expr error)
  | filtering {expression solutions : String} {propagateErrors : Bool} {expr : Expr}
    {sequence : Solutions} {error : EvalError}
    (isExpr : LeadsTo read Expr.ofJson expression expr)
    (isSequence : LeadsTo read Solutions.ofJson solutions sequence)
    (noneKept : Evaluator.standard.filter (optionsOfFilter propagateErrors) sequence
      (.expression expr) = .error error) :
    Fails read (.filter expression solutions propagateErrors) (.filtering expr error)

namespace Computes

variable {format : OutputFormat} {task : Task}

/-- Where a task has a result, each of its documents is read. -/
theorem leadsTo (computes : Computes read format task content)
    (needed : (role, path) ∈ task.documents) :
    ∃ value, LeadsTo read role.form.decode path value := by
  cases computes with
  | eval isExpr isSolution isValue shows =>
    rcases List.mem_cons.mp needed with same | needed
    · cases same
      exact ⟨_, isExpr⟩
    · obtain ⟨bindings, given, same⟩ := List.mem_map.mp needed
      cases same
      rw [Option.mem_toList.mp given] at isSolution
      exact ⟨_, isSolution⟩
  | filter isExpr isSequence isKept shows =>
    rcases List.mem_cons.mp needed with same | needed
    · cases same
      exact ⟨_, isExpr⟩
    · cases List.mem_singleton.mp needed
      exact ⟨_, isSequence⟩
  | sseOfExpr isExpr =>
    cases List.mem_singleton.mp needed
    exact ⟨_, isExpr⟩
  | sseOfPattern isPattern =>
    cases List.mem_singleton.mp needed
    exact ⟨_, isPattern⟩

end Computes

/-- One solution is bound. -/
theorem Binds.unique {bindings : Option String} {solution other : Solution}
    (first : Binds read bindings solution) (second : Binds read bindings other) :
    solution = other := by
  cases bindings with
  | none => exact first.trans second.symm
  | some path => exact LeadsTo.unique first second

/-- **A task with a failure has no result.** -/
theorem Fails.not_computes {format : OutputFormat} {task : Task} (fails : Fails read task failure) :
    ¬Computes read format task content := by
  intro computes
  cases fails with
  | unread needed isUnread =>
    obtain ⟨value, leadsTo⟩ := computes.leadsTo needed
    exact leadsTo.not_unread isUnread
  | evaluation isExpr isSolution noValue =>
    cases computes with
    | eval isOther isOtherSolution isValue shows =>
      cases isExpr.unique isOther
      cases isSolution.unique isOtherSolution
      rw [noValue] at isValue
      cases isValue
  | filtering isExpr isSequence noneKept =>
    cases computes with
    | filter isOther isOtherSequence isKept shows =>
      cases isExpr.unique isOther
      cases isSequence.unique isOtherSequence
      rw [noneKept] at isKept
      cases isKept

/-! ### Reports -/

variable {invocation : Invocation}

theorem reportValue_eq_ok {maxDepth : Option Nat} {expr : Expr} {solution : Solution} :
    (reportValue invocation maxDepth expr solution).result = .ok content ↔
      ∃ term, Evaluator.standard.evaluate (optionsWithin maxDepth) solution.bindings expr =
          .ok term ∧
        ShowsTerm term invocation.format content := by
  simp only [showsTerm_iff]
  dsimp only [reportValue, optionsWithin]
  cases Evaluator.standard.evaluate _ solution.bindings expr <;> simp

theorem reportValue_eq_error {maxDepth : Option Nat} {expr : Expr} {solution : Solution} :
    (reportValue invocation maxDepth expr solution).result = .error failure ↔
      ∃ error, Evaluator.standard.evaluate (optionsWithin maxDepth) solution.bindings expr =
          .error error ∧
        .evaluation expr error = failure := by
  dsimp only [reportValue, optionsWithin]
  cases Evaluator.standard.evaluate _ solution.bindings expr <;> simp

theorem reportFilter_eq_ok {propagateErrors : Bool} {expr : Expr} {sequence : Solutions} :
    (reportFilter invocation (if propagateErrors then .propagate else .exclude) expr
        sequence).result = .ok content ↔
      ∃ kept, Evaluator.standard.filter (optionsOfFilter propagateErrors) sequence
          (.expression expr) = .ok kept ∧
        ShowsSolutions kept invocation.format content := by
  simp only [showsSolutions_iff]
  dsimp only [reportFilter, optionsOfFilter]
  cases Evaluator.standard.filter _ sequence (.expression expr) <;> simp

theorem reportFilter_eq_error {propagateErrors : Bool} {expr : Expr} {sequence : Solutions} :
    (reportFilter invocation (if propagateErrors then .propagate else .exclude) expr
        sequence).result = .error failure ↔
      ∃ error, Evaluator.standard.filter (optionsOfFilter propagateErrors) sequence
          (.expression expr) = .error error ∧
        .filtering expr error = failure := by
  dsimp only [reportFilter, optionsOfFilter]
  cases Evaluator.standard.filter _ sequence (.expression expr) <;> simp

/-- The solution of a task is the one that is bound. -/
theorem solution_eq_ok {bindings : Option String} {solution : Solution} :
    (match bindings with
      | some path => readDocument read .bindings Solution.ofJson path
      | none => .ok .empty) = .ok solution ↔ Binds read bindings solution := by
  cases bindings with
  | none =>
    show Except.ok Solution.empty = Except.ok solution ↔ solution = .empty
    rw [Except.ok.injEq, eq_comm]
  | some path => exact readDocument_eq_ok

/-- **A report has the result that is computed.** -/
theorem report_eq_ok : (invocation.report read).result = .ok content ↔
    Computes read invocation.format invocation.task content := by
  obtain ⟨verbose, format, output, colored, task⟩ := invocation
  cases task with
  | eval expression bindings maxDepth =>
    simp only [Invocation.report, reportOn_eq_ok, readDocument_eq_ok, reportValue_eq_ok]
    constructor
    · rintro ⟨expr, isExpr, solution, isSolution, term, isValue, shows⟩
      exact .eval isExpr (solution_eq_ok.mp isSolution) isValue shows
    · intro computes
      cases computes with
      | eval isExpr isSolution isValue shows =>
        exact ⟨_, isExpr, _, solution_eq_ok.mpr isSolution, _, isValue, shows⟩
  | filter expression solutions propagateErrors =>
    simp only [Invocation.report, reportOn_eq_ok, readDocument_eq_ok, reportFilter_eq_ok]
    constructor
    · rintro ⟨expr, isExpr, sequence, isSequence, kept, isKept, shows⟩
      exact .filter isExpr isSequence isKept shows
    · intro computes
      cases computes with
      | filter isExpr isSequence isKept shows =>
        exact ⟨_, isExpr, _, isSequence, _, isKept, shows⟩
  | sse file pattern =>
    cases pattern with
    | false =>
      simp only [Invocation.report, reportOn_eq_ok, readDocument_eq_ok, Except.ok.injEq]
      constructor
      · rintro ⟨expr, isExpr, rfl⟩
        exact .sseOfExpr isExpr
      · intro computes
        cases computes with
        | sseOfExpr isExpr => exact ⟨_, isExpr, rfl⟩
    | true =>
      simp only [Invocation.report, reportOn_eq_ok, readDocument_eq_ok, Except.ok.injEq]
      constructor
      · rintro ⟨pattern, isPattern, rfl⟩
        exact .sseOfPattern isPattern
      · intro computes
        cases computes with
        | sseOfPattern isPattern => exact ⟨_, isPattern, rfl⟩

/-- **A failure that is reported is one of the task.** -/
theorem fails_of_report (reported : (invocation.report read).result = .error failure) :
    Fails read invocation.task failure := by
  obtain ⟨verbose, format, output, colored, task⟩ := invocation
  cases task with
  | eval expression bindings maxDepth =>
    rcases reportOn_eq_error.mp reported with fails | ⟨expr, isExpr, reported⟩
    · exact .unread (.head _) (readDocument_eq_error.mp fails)
    have isExpr := readDocument_eq_ok.mp isExpr
    rcases reportOn_eq_error.mp reported with fails | ⟨solution, isSolution, reported⟩
    · cases bindings with
      | none => cases fails
      | some path => exact .unread (.tail _ (.head _)) (readDocument_eq_error.mp fails)
    · obtain ⟨error, noValue, rfl⟩ := reportValue_eq_error.mp reported
      exact .evaluation isExpr (solution_eq_ok.mp isSolution) noValue
  | filter expression solutions propagateErrors =>
    rcases reportOn_eq_error.mp reported with fails | ⟨expr, isExpr, reported⟩
    · exact .unread (.head _) (readDocument_eq_error.mp fails)
    have isExpr := readDocument_eq_ok.mp isExpr
    rcases reportOn_eq_error.mp reported with fails | ⟨sequence, isSequence, reported⟩
    · exact .unread (.tail _ (.head _)) (readDocument_eq_error.mp fails)
    · obtain ⟨error, noneKept, rfl⟩ := reportFilter_eq_error.mp reported
      exact .filtering isExpr (readDocument_eq_ok.mp isSequence) noneKept
  | sse file pattern =>
    cases pattern with
    | false =>
      rcases reportOn_eq_error.mp reported with fails | ⟨_, _, reported⟩
      · exact .unread (.head _) (readDocument_eq_error.mp fails)
      · cases reported
    | true =>
      rcases reportOn_eq_error.mp reported with fails | ⟨_, _, reported⟩
      · exact .unread (.head _) (readDocument_eq_error.mp fails)
      · cases reported

/-- **A task with a failure is reported as failed.** -/
theorem Fails.report (fails : Fails read invocation.task failure) :
    ∃ reported, (invocation.report read).result = .error reported := by
  cases result : (invocation.report read).result with
  | error reported => exact ⟨reported, rfl⟩
  | ok content => exact absurd (report_eq_ok.mp result) fails.not_computes

/-! ### Outcomes -/

/-- What an invocation comes to. -/
def Invocation.outcome (read : String → Option String) (canCreate : String → Bool)
    (invocation : Invocation) : Outcome :=
  invocation.deliver canCreate (invocation.report read)

/-- Valid arguments come to what their invocation does. -/
theorem run_of_valid {canCreate : String → Bool} {arguments : List String}
    (valid : Invocation.ofArguments arguments = .ok invocation) :
    run read canCreate arguments = invocation.outcome read canCreate := by
  unfold run Invocation.outcome
  simp only [valid]

/-- A run that hands a text over on a line: into the file that is named, or else by printing it. -/
structure Outcome.Delivers (output : Option String) (content : String) (outcome : Outcome) :
    Prop where
  status : outcome.status = 0
  stdout : outcome.stdout = if output = none then content ++ "\n" else ""
  written : outcome.written = output.map fun path => (path, content ++ "\n")

/-- A run that hands nothing over and tells of one failure. -/
structure Outcome.Tells (colored : Bool) (failure : Failure) (outcome : Outcome) : Prop where
  status : outcome.status = 1
  stdout : outcome.stdout = ""
  written : outcome.written = none
  stderr : outcome.stderr = [errorLabel colored ++ " " ++ failure.message]

/-- A failure that is reported without remarks is told of. -/
theorem tells_of_report {canCreate : String → Bool}
    (reported : invocation.report read = { result := .error failure }) :
    (invocation.outcome read canCreate).Tells invocation.colored failure := by
  rw [Invocation.outcome, Invocation.deliver, reported]
  exact ⟨rfl, rfl, rfl, rfl⟩

section Deliver

variable {canCreate : String → Bool}
  (creatable : ∀ path, invocation.output = some path → canCreate path = true)

include creatable

/-- Where the output can be created, what is reported is handed over. -/
theorem delivers_iff :
    (invocation.outcome read canCreate).Delivers invocation.output content ↔
      (invocation.report read).result = .ok content := by
  unfold Invocation.outcome Invocation.deliver
  cases reported : (invocation.report read).result with
  | error failure =>
    refine iff_of_false (fun delivers => ?_) nofun
    cases delivers.status
  | ok other =>
    rw [Except.ok.injEq]
    cases named : invocation.output with
    | none =>
      constructor
      · intro delivers
        exact String.append_left_inj "\n" |>.mp delivers.stdout
      · rintro rfl
        exact ⟨rfl, rfl, rfl⟩
    | some path =>
      simp only [creatable path named, if_true]
      constructor
      · intro delivers
        have same := Option.some.inj delivers.written
        exact String.append_left_inj "\n" |>.mp (Prod.mk.inj same).2
      · rintro rfl
        exact ⟨rfl, rfl, rfl⟩

/-- Where the output can be created, the status is 1 for failures only. -/
theorem status_eq_one_iff : (invocation.outcome read canCreate).status = 1 ↔
    ∃ failure, (invocation.report read).result = .error failure := by
  unfold Invocation.outcome Invocation.deliver
  cases (invocation.report read).result with
  | error failure => simp [Outcome.ofFailure]
  | ok content =>
    cases named : invocation.output with
    | none => simp
    | some path => simp [creatable path named]

end Deliver

end QueryAlgebra.Command
