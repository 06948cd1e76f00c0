/-
**A command changes one thing or nothing.**

Where a task has a failure, the run changes nothing: the files are as they were, even where the
output is one of the inputs. Otherwise its result, computed from the files as they were, goes to one
place: to the standard output, or into the output file while every other file stays as it was.
-/
import QueryAlgebra.Proofs.Command.Files
import QueryAlgebra.Proofs.Command.Report

namespace QueryAlgebra.Command

/-- A run that fails: its status says so, it prints nothing and the files are as they were. -/
structure ChangesNothing (files : Files) (after : Outcome × Files) : Prop where
  status : after.1.status = 1
  stdout : after.1.stdout = ""
  files : after.2 = files

/-- A run that prints its result on a line and leaves the files as they were. -/
structure PrintsOnly (files : Files) (content : String) (after : Outcome × Files) : Prop where
  status : after.1.status = 0
  stdout : after.1.stdout = content ++ "\n"
  files : after.2 = files

/-- A run that prints nothing and writes its result on a line into one file. -/
structure WritesOnly (files : Files) (path content : String) (after : Outcome × Files) : Prop where
  status : after.1.status = 0
  stdout : after.1.stdout = ""
  /-- Every path to the place of the output leads to one file then, and every other path to where it
  led. That file holds the result, and every other one what it held. -/
  file : ∃ place number, files.locate? path = some place ∧
    (∀ other, after.2.locate? other =
      if files.locate? other = some place then some (.node number) else files.locate? other) ∧
    ∀ other, after.2.bytesOf? other =
      if other = number then some (content ++ "\n").toUTF8 else files.bytesOf? other
  /-- The result is found at every path to the place, and at every other path what was there. -/
  bytes : ∀ other, after.2.bytes? other =
    if files.locate? other = files.locate? path then some (content ++ "\n").toUTF8
    else files.bytes? other

variable {files : Files} {arguments : List String} {invocation : Invocation}

section Deliver

variable (valid : Invocation.ofArguments arguments = .ok invocation) {content path : String}

include valid

/-- Where a failure is reported, nothing is changed. -/
theorem changesNothing_of_error {failure : Failure}
    (reported : (invocation.report files.read).result = .error failure) :
    ChangesNothing files (files.run arguments) := by
  rw [Files.run, run_of_valid valid, Invocation.outcome, Invocation.deliver, reported]
  exact ⟨rfl, rfl, rfl⟩

/-- Where the output cannot be created, nothing is changed. -/
theorem changesNothing_of_uncreatable
    (reported : (invocation.report files.read).result = .ok content)
    (named : invocation.output = some path) (uncreatable : files.canCreate path = false) :
    ChangesNothing files (files.run arguments) := by
  rw [Files.run, run_of_valid valid, Invocation.outcome, Invocation.deliver, reported, named]
  simp only [uncreatable, Bool.false_eq_true, if_false]
  exact ⟨rfl, rfl, rfl⟩

theorem printsOnly_of_ok (reported : (invocation.report files.read).result = .ok content)
    (unnamed : invocation.output = none) : PrintsOnly files content (files.run arguments) := by
  rw [Files.run, run_of_valid valid, Invocation.outcome, Invocation.deliver, reported, unnamed]
  exact ⟨rfl, rfl, rfl⟩

theorem writesOnly_of_ok (reported : (invocation.report files.read).result = .ok content)
    (named : invocation.output = some path) (creatable : files.canCreate path = true) :
    WritesOnly files path content (files.run arguments) := by
  rw [Files.run, run_of_valid valid, Invocation.outcome, Invocation.deliver, reported, named]
  simp only [creatable, if_true]
  obtain ⟨place, number, leads, filled⟩ := Files.exists_filled_of_canCreate creatable
  refine ⟨rfl, rfl, ⟨place, number, leads, filled.locate?_eq, filled.bytesOf?⟩, fun other => ?_⟩
  rw [leads]
  exact filled.bytes?_eq other

end Deliver

/-- **A command changes one thing or nothing.** Where its task has a failure, the status is 1 and
nothing is printed or written. Otherwise the result, computed from the files as they were, is
printed where no output is named, or else written into the output alone; nothing is changed where
that cannot be created. -/
theorem run_changes_one_sink (files : Files) (arguments : List String) (invocation : Invocation)
    (valid : Invocation.ofArguments arguments = .ok invocation) :
    (∀ failure, Fails files.read invocation.task failure →
      ChangesNothing files (files.run arguments)) ∧
    ((∀ failure, ¬Fails files.read invocation.task failure) →
      ∃ content, Computes files.read invocation.format invocation.task content ∧
        (invocation.output = none → PrintsOnly files content (files.run arguments)) ∧
        ∀ path, invocation.output = some path →
          (files.canCreate path = true → WritesOnly files path content (files.run arguments)) ∧
          (files.canCreate path = false → ChangesNothing files (files.run arguments))) := by
  constructor
  · intro failure fails
    obtain ⟨reported, isReported⟩ := fails.report
    exact changesNothing_of_error valid isReported
  · intro sound
    cases reported : (invocation.report files.read).result with
    | error failure => exact absurd (fails_of_report reported) (sound failure)
    | ok content =>
      exact ⟨content, report_eq_ok.mp reported, printsOnly_of_ok valid reported, fun path named =>
        ⟨writesOnly_of_ok valid reported named, changesNothing_of_uncreatable valid reported named⟩⟩

/-! ### An output that is also the input -/

/-- A variable in a file of the working directory. -/
def variableFiles : Files := .ofList [("a.json", (Expr.var ⟨"x"⟩).toJson.text)]

theorem variableFiles_leadsTo :
    LeadsTo variableFiles.read Expr.ofJson "a.json" (.var ⟨"x"⟩) := by
  refine leadsTo_text (Expr.isValid_var _) ?_ (by decide) ?_
  · refine (Expr.isBare_iff _).mpr ⟨fun reference same => ?_, List.forall_mem_nil _⟩
    cases same
    decide
  · show (variableFiles.bytesOf? 3).bind String.fromUTF8? = _
    exact Files.fromUTF8?_toUTF8 _

/-- A file that is rendered onto itself under its absolute name is replaced, and it is kept where
its expression has no value. -/
theorem run_changes_one_sink_alias :
    WritesOnly variableFiles "/tmp/work/a.json" "?x"
        (variableFiles.run ["sse", "a.json", "-o", "/tmp/work/a.json"]) ∧
      ChangesNothing variableFiles
        (variableFiles.run ["eval", "a.json", "-o", "/../tmp/work/a.json"]) := by
  constructor
  · have valid : Invocation.ofArguments ["sse", "a.json", "-o", "/tmp/work/a.json"] =
        .ok ⟨false, .text, some "/tmp/work/a.json", false, .sse "a.json" false⟩ := rfl
    have computes : Computes variableFiles.read .text (.sse "a.json" false) "?x" :=
      .sseOfExpr variableFiles_leadsTo
    obtain ⟨content, isContent, _, writes⟩ :=
      (run_changes_one_sink variableFiles _ _ valid).2 fun _ fails => fails.not_computes computes
    cases isContent with
    | sseOfExpr isExpr =>
      cases isExpr.unique variableFiles_leadsTo
      exact (writes "/tmp/work/a.json" rfl).1 rfl
  · have valid : Invocation.ofArguments ["eval", "a.json", "-o", "/../tmp/work/a.json"] =
        .ok ⟨false, .text, some "/../tmp/work/a.json", false, .eval "a.json" none none⟩ := rfl
    have fails : Fails variableFiles.read (.eval "a.json" none none)
        (.evaluation (.var ⟨"x"⟩) (.unboundVariable "x" false)) :=
      .evaluation variableFiles_leadsTo rfl rfl
    exact (run_changes_one_sink variableFiles _ _ valid).1 _ fails

end QueryAlgebra.Command
