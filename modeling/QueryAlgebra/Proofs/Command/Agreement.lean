/-
**The commands `filter` and `eval` agree.**

An element of a document of solutions is a document of bindings by itself: it stands alone in some
text (`exists_elements`) and is read there as the solution that it is read as in its place
(`AreElements.leadTo`). What `eval` prints for it decides what `filter` does with it. The default
filter keeps it where a term with a true truth value is printed (`selected_of_forall₂`); with errors
propagated, the filter fails where for some element there is no term or one without a truth value.
-/
import QueryAlgebra.Proofs.Command.Rendering
import QueryAlgebra.Proofs.Command.Report
import QueryAlgebra.Proofs.Document.Levels
import QueryAlgebra.Proofs.Document.Rereading
import QueryAlgebra.Proofs.Filter
import QueryAlgebra.Proofs.Json.Parts

namespace QueryAlgebra

/-! ### Conditions -/

namespace Evaluator

variable {evaluator : Evaluator} {options : Options} {expr : Expr} {bindings : Bindings}

/-- A condition is the truth value of the value of its expression. -/
theorem condition_eq_ok {truth : Bool} : evaluator.condition options bindings expr = .ok truth ↔
    ∃ term, evaluator.evaluate options bindings expr = .ok term ∧
      term.booleanValue? = some truth := by
  unfold condition
  rw [bind_eq_ok]
  refine exists_congr fun term => and_congr_right fun _ => ?_
  unfold Term.condition
  cases term.booleanValue? <;> simp

theorem satisfies_iff {solution : Solution} :
    evaluator.satisfies options expr solution = true ↔
      ∃ term, evaluator.evaluate options solution.bindings expr = .ok term ∧
        term.booleanValue? = some true := by
  rw [← condition_eq_ok, satisfies]
  cases evaluator.condition options solution.bindings expr <;> simp

theorem not_judges_iff {solution : Solution} : ¬evaluator.Judges options expr solution ↔
    (∃ error, evaluator.evaluate options solution.bindings expr = .error error) ∨
      ∃ term, evaluator.evaluate options solution.bindings expr = .ok term ∧
        term.booleanValue? = none := by
  unfold Judges
  simp only [condition_eq_ok]
  cases evaluator.evaluate options solution.bindings expr with
  | error error => simp
  | ok term => cases value : term.booleanValue? <;> simp [value]

end Evaluator

namespace Command

variable {read : String → Option String} {canCreate : String → Bool}
  {expression solutions path : String} {paths : List String} {expr : Expr} {solution : Solution}
  {sequence : Solutions}

/-! ### The elements of a document -/

theorem IsJson.unique {value other : Json} (first : IsJson read path value)
    (second : IsJson read path other) : value = other := by
  obtain ⟨content, isContent, isValue⟩ := first
  obtain ⟨_, isOther, isSecond⟩ := second
  cases isContent.symm.trans isOther
  rw [isValue] at isSecond
  cases isSecond
  rfl

/-- Whether the files at some paths hold the elements of the array in another file, in order. -/
def AreElements (read : String → Option String) (solutions : String) (paths : List String) : Prop :=
  ∃ items, IsJson read solutions (.ofItems items) ∧ List.Forall₂ (IsJson read) paths items

/-- The items of an array that is read are read one by one. -/
theorem exists_items (isSequence : LeadsTo read Solutions.ofJson solutions sequence) :
    ∃ items, IsJson read solutions (.ofItems items) ∧
      List.Forall₂ (fun item solution => Solution.ofJson Document.greatestLevels item =
        .ok solution) items sequence := by
  obtain ⟨value, isValue, isRead⟩ := leadsTo_iff.mp isSequence
  obtain ⟨items, rfl, areItems⟩ := Document.decodeList_eq_ok.mp isRead
  refine ⟨items, isValue, ?_⟩
  clear isValue isRead isSequence
  induction items generalizing sequence with
  | nil =>
    cases areItems
    exact .nil
  | cons item rest inRest =>
    obtain ⟨solution, isSolution, areItems⟩ := bind_eq_ok.mp areItems
    obtain ⟨others, areOthers, same⟩ := bind_eq_ok.mp areItems
    cases same
    exact .cons (Solution.ofJson_succ _ _ isSolution) (inRest areOthers)

/-- **The elements of a document can stand alone**: each is the value of some text. -/
theorem exists_elements (isSequence : LeadsTo read Solutions.ofJson solutions sequence) :
    ∃ (items : List Json) (contents : List String), IsJson read solutions (.ofItems items) ∧
      List.Forall₂ (fun content item => Json.read content.toList = ⟨some item, true⟩)
        contents items := by
  obtain ⟨items, areItems, _⟩ := exists_items isSequence
  have ⟨content, _, isRead⟩ := areItems
  have alone : ∀ item ∈ items, ∃ content : String,
      Json.read content.toList = ⟨some item, true⟩ := by
    intro item member
    obtain ⟨content, isContent⟩ := Json.exists_read_of_item isRead member
    exact ⟨String.ofList content, by rw [String.toList_ofList, isContent]⟩
  choose! text isText using alone
  exact ⟨items, items.map text, areItems,
    List.forall₂_map_left_iff.mpr (List.forall₂_same.mpr isText)⟩

/-- **An element is read alone as it is read in its place.** -/
theorem AreElements.leadTo (areElements : AreElements read solutions paths)
    (isSequence : LeadsTo read Solutions.ofJson solutions sequence) :
    List.Forall₂ (LeadsTo read Solution.ofJson) paths sequence := by
  obtain ⟨items, areItems, each⟩ := areElements
  obtain ⟨others, areOthers, isRead⟩ := exists_items isSequence
  cases Json.array.inj (areItems.unique areOthers) |>.1
  clear areItems areOthers isSequence
  induction each generalizing sequence with
  | nil =>
    cases isRead
    exact .nil
  | cons isItem _ inRest =>
    cases isRead with
    | cons isSolution isRead =>
      exact .cons (leadsTo_iff.mpr ⟨_, isItem, isSolution⟩) (inRest isRead)

/-! ### What the commands report -/

/-- The command `eval` without a depth limit, with the settings of an invocation. -/
def Invocation.evaluating (settings : Invocation) (expression bindings : String) : Invocation :=
  { settings with task := .eval expression (some bindings) none }

/-- The command `filter` with the settings of an invocation. -/
def Invocation.filtering (settings : Invocation) (expression solutions : String)
    (propagateErrors : Bool) : Invocation :=
  { settings with task := .filter expression solutions propagateErrors }

variable {settings : Invocation} {propagateErrors : Bool}

theorem report_evaluating (isExpr : LeadsTo read Expr.ofJson expression expr)
    (isSolution : LeadsTo read Solution.ofJson path solution) :
    (settings.evaluating expression path).report read =
      reportValue settings none expr solution := by
  have readsExpr := @readDocument_eq_ok read .expression _ _ _ _ |>.mpr isExpr
  have readsSolution := @readDocument_eq_ok read .bindings _ _ _ _ |>.mpr isSolution
  simp only [Invocation.report, Invocation.evaluating, readsExpr, readsSolution, reportOn]
  rfl

theorem report_filtering (isExpr : LeadsTo read Expr.ofJson expression expr)
    (isSequence : LeadsTo read Solutions.ofJson solutions sequence) :
    (settings.filtering expression solutions propagateErrors).report read =
      reportFilter settings (if propagateErrors then .propagate else .exclude) expr sequence := by
  have readsExpr := @readDocument_eq_ok read .expression _ _ _ _ |>.mpr isExpr
  have readsSequence := @readDocument_eq_ok read .solutions _ _ _ _ |>.mpr isSequence
  simp only [Invocation.report, Invocation.filtering, readsExpr, readsSequence, reportOn]
  rfl

/-- An expression that is refused is all that `filter` reports. -/
theorem report_filtering_refused {failure : Failure}
    (refused : readDocument read .expression Expr.ofJson expression = .error failure) :
    (settings.filtering expression solutions propagateErrors).report read =
      { result := .error failure } := by
  simp only [Invocation.report, Invocation.filtering, refused, reportOn]

/-- An expression that is refused is all that `eval` reports. -/
theorem report_evaluating_refused {failure : Failure}
    (refused : readDocument read .expression Expr.ofJson expression = .error failure) :
    (settings.evaluating expression path).report read = { result := .error failure } := by
  simp only [Invocation.report, Invocation.evaluating, refused, reportOn]

/-- Whether an invocation hands a term over, in its format. -/
def Invocation.Yields (read : String → Option String) (canCreate : String → Bool)
    (invocation : Invocation) (term : Term) : Prop :=
  ∃ content, (invocation.outcome read canCreate).Delivers invocation.output content ∧
    ShowsTerm term invocation.format content

/-- Whether `eval` yields a term with a true truth value for a document of bindings. -/
def HoldsFor (read : String → Option String) (canCreate : String → Bool) (settings : Invocation)
    (expression path : String) : Prop :=
  ∃ term, (settings.evaluating expression path).Yields read canCreate term ∧
    term.booleanValue? = some true

/-- Whether `eval` fails for a document of bindings or yields a term without a truth value. -/
def LacksTruthFor (read : String → Option String) (canCreate : String → Bool)
    (settings : Invocation) (expression path : String) : Prop :=
  ((settings.evaluating expression path).outcome read canCreate).status = 1 ∨
    ∃ term, (settings.evaluating expression path).Yields read canCreate term ∧
      term.booleanValue? = none

section Element

variable (creatable : ∀ path, settings.output = some path → canCreate path = true)
  (isExpr : LeadsTo read Expr.ofJson expression expr)
  (isSolution : LeadsTo read Solution.ofJson path solution)

include creatable isExpr isSolution

/-- What is handed over tells which term is the value. -/
theorem yields_iff {term : Term} :
    (settings.evaluating expression path).Yields read canCreate term ↔
      Evaluator.standard.evaluate Options.default solution.bindings expr = .ok term := by
  have canDeliver : ∀ output, (settings.evaluating expression path).output = some output →
      canCreate output = true := creatable
  unfold Invocation.Yields
  simp only [delivers_iff canDeliver, report_evaluating isExpr isSolution, reportValue_eq_ok]
  constructor
  · rintro ⟨content, ⟨other, isValue, shown⟩, shows⟩
    rw [shows.unique shown]
    exact isValue
  · exact fun isValue => ⟨_, ⟨term, isValue, showsTerm_iff.mpr rfl⟩, showsTerm_iff.mpr rfl⟩

theorem fails_iff : ((settings.evaluating expression path).outcome read canCreate).status = 1 ↔
    ∃ error, Evaluator.standard.evaluate Options.default solution.bindings expr =
      .error error := by
  have canDeliver : ∀ output, (settings.evaluating expression path).output = some output →
      canCreate output = true := creatable
  rw [status_eq_one_iff canDeliver, report_evaluating isExpr isSolution]
  simp only [reportValue_eq_error]
  constructor
  · rintro ⟨_, error, noValue, _⟩
    exact ⟨error, noValue⟩
  · rintro ⟨error, noValue⟩
    exact ⟨_, error, noValue, rfl⟩

theorem holdsFor_iff : HoldsFor read canCreate settings expression path ↔
    Evaluator.standard.satisfies Options.default expr solution = true := by
  rw [Evaluator.satisfies_iff, HoldsFor]
  simp only [yields_iff creatable isExpr isSolution]

theorem lacksTruthFor_iff : LacksTruthFor read canCreate settings expression path ↔
    ¬Evaluator.standard.Judges Options.default expr solution := by
  rw [Evaluator.not_judges_iff, LacksTruthFor, fails_iff creatable isExpr isSolution]
  simp only [yields_iff creatable isExpr isSolution]

end Element

/-! ### All elements -/

/-- The solutions of a sequence whose paths have a property, in their order. -/
inductive Selected (holds : String → Prop) : List String → Solutions → Solutions → Prop
  | nil : Selected holds [] [] []
  | kept {path : String} {solution : Solution} {paths : List String} {sequence kept : Solutions}
    (isTrue : holds path) (rest : Selected holds paths sequence kept) :
    Selected holds (path :: paths) (solution :: sequence) (solution :: kept)
  | dropped {path : String} {solution : Solution} {paths : List String} {sequence kept : Solutions}
    (notTrue : ¬holds path) (rest : Selected holds paths sequence kept) :
    Selected holds (path :: paths) (solution :: sequence) kept

/-- A filter keeps the solutions whose paths have the property that it filters by. -/
theorem selected_of_forall₂ {holds : String → Prop} {satisfies : Solution → Bool}
    (each : List.Forall₂ (fun path solution => holds path ↔ satisfies solution = true) paths
      sequence) : Selected holds paths sequence (sequence.filter satisfies) := by
  induction each with
  | nil => exact .nil
  | @cons path solution paths sequence here _ inRest =>
    by_cases isTrue : satisfies solution = true
    · rw [List.filter_cons_of_pos isTrue]
      exact .kept (here.mpr isTrue) inRest
    · rw [List.filter_cons_of_neg isTrue]
      exact .dropped (mt here.mp isTrue) inRest

/-- Not all solutions are judged where some path has the property of one that is not. -/
theorem exists_path_iff {lacks : String → Prop} {judges : Solution → Prop}
    (each : List.Forall₂ (fun path solution => lacks path ↔ ¬judges solution) paths sequence) :
    (∃ path ∈ paths, lacks path) ↔ ¬∀ solution ∈ sequence, judges solution := by
  induction each with
  | nil => simp
  | cons here _ inRest =>
    rw [List.exists_mem_cons_iff, List.forall_mem_cons, here, inRest]
    tauto

/-! ### Both commands -/

variable {settings evaluating : Invocation}

/-- Policies that keep the same solutions are reported alike. -/
theorem reportFilter_congr {policy other : FilterErrorPolicy}
    (same : Evaluator.standard.filter { filterErrors := policy } sequence (.expression expr) =
      Evaluator.standard.filter { filterErrors := other } sequence (.expression expr)) :
    reportFilter settings policy expr sequence = reportFilter settings other expr sequence := by
  unfold reportFilter
  rw [same]

section Filter

variable (isExpr : LeadsTo read Expr.ofJson expression expr)
  (isSequence : LeadsTo read Solutions.ofJson solutions sequence)

include isExpr isSequence

/-- The default filter reports the solutions that satisfy its condition. -/
theorem report_excluding {content : String} :
    ((settings.filtering expression solutions false).report read).result = .ok content ↔
      ShowsSolutions (sequence.filter (Evaluator.standard.satisfies Options.default expr))
        settings.format content := by
  have keeps : Evaluator.standard.filter (optionsOfFilter false) sequence (.expression expr) =
      .ok (sequence.filter (Evaluator.standard.satisfies Options.default expr)) :=
    Evaluator.filterBy_exclude rfl sequence
  rw [report_filtering isExpr isSequence, reportFilter_eq_ok, keeps]
  simp only [Except.ok.injEq, exists_eq_left']

/-- A filter that propagates errors reports what the default one reports where every solution has a
truth value. -/
theorem report_propagating
    (judged : ∀ solution ∈ sequence, Evaluator.standard.Judges Options.default expr solution) :
    (settings.filtering expression solutions true).report read =
      (settings.filtering expression solutions false).report read := by
  have propagates : (optionsOfFilter true).filterErrors = .propagate := rfl
  have excludes : (optionsOfFilter false).filterErrors = .exclude := rfl
  have same : Evaluator.standard.filterBy (optionsOfFilter true) expr sequence =
      Evaluator.standard.filterBy (optionsOfFilter false) expr sequence := by
    rw [Evaluator.filterBy_exclude excludes]
    exact (Evaluator.filterBy_eq_ok_iff propagates).mpr ⟨judged, rfl⟩
  rw [report_filtering isExpr isSequence, report_filtering isExpr isSequence]
  exact reportFilter_congr same

/-- A filter that propagates errors fails where some solution has no truth value. -/
theorem propagating_fails_iff :
    (∃ failure,
      ((settings.filtering expression solutions true).report read).result = .error failure) ↔
    ¬∀ solution ∈ sequence, Evaluator.standard.Judges Options.default expr solution := by
  constructor
  · rintro ⟨failure, reported⟩ judged
    obtain ⟨content, shows⟩ := exists_shows settings.format _ _
    rw [report_propagating isExpr isSequence judged,
      (report_excluding isExpr isSequence).mpr shows] at reported
    cases reported
  · intro unjudged
    cases reported : ((settings.filtering expression solutions true).report read).result with
    | error failure => exact ⟨failure, rfl⟩
    | ok content =>
      rw [report_filtering isExpr isSequence, reportFilter_eq_ok] at reported
      obtain ⟨kept, isKept, _⟩ := reported
      exact absurd ((Evaluator.filterBy_eq_ok_iff rfl).mp isKept).1 unjudged

section Deliver

variable (creatable : ∀ path, settings.output = some path → canCreate path = true)

include creatable

/-- The default filter hands over the solutions that satisfy its condition. -/
theorem delivers_excluding : ∃ content,
    ((settings.filtering expression solutions false).outcome read canCreate).Delivers
      settings.output content ∧
    ShowsSolutions (sequence.filter (Evaluator.standard.satisfies Options.default expr))
      settings.format content := by
  have canDeliver : ∀ output, (settings.filtering expression solutions false).output =
      some output → canCreate output = true := creatable
  obtain ⟨content, shows⟩ := exists_shows settings.format _ _
  have reported := (report_excluding isExpr isSequence).mpr shows
  exact ⟨content, (delivers_iff canDeliver).mpr reported, shows⟩

/-- A filter that propagates errors has the status 1 where some solution has no truth value. -/
theorem status_propagating_iff :
    ((settings.filtering expression solutions true).outcome read canCreate).status = 1 ↔
      ¬∀ solution ∈ sequence, Evaluator.standard.Judges Options.default expr solution := by
  have canDeliver : ∀ output, (settings.filtering expression solutions true).output =
      some output → canCreate output = true := creatable
  rw [status_eq_one_iff canDeliver, propagating_fails_iff isExpr isSequence]

end Deliver

end Filter

/-- Solutions that are kept of an accepted document are valid. -/
theorem isValid_filter (isSequence : LeadsTo read Solutions.ofJson solutions sequence)
    (satisfies : Solution → Bool) : Solutions.IsValid (sequence.filter satisfies) := by
  obtain ⟨_, _, isRead⟩ := leadsTo_iff.mp isSequence
  exact fun solution member => Solutions.isValid_of_ofJson isRead _ (List.mem_of_mem_filter member)

/-- **The commands agree.** Each element of an accepted document of solutions is the value of a
text. Where such texts are in files, the default filter hands over the solutions of those elements,
in order, for which `eval` hands over a term with a true truth value: their displays, one on a line,
or a document that is read as them, but for the sigils of variables. With errors propagated its
status is 1 exactly where for some element `eval` fails or hands over a term without a truth value,
and otherwise its outcome is that of the default filter. An expression that is refused is refused by
both, with one failure. -/
theorem filter_agrees_with_eval (read : String → Option String) (canCreate : String → Bool)
    (filtering evaluating : Invocation) (expression solutions : String) (sequence : Solutions)
    (isSequence : LeadsTo read Solutions.ofJson solutions sequence)
    (filterCreatable : ∀ path, filtering.output = some path → canCreate path = true)
    (evalCreatable : ∀ path, evaluating.output = some path → canCreate path = true) :
    (∃ (items : List Json) (contents : List String), IsJson read solutions (.ofItems items) ∧
      List.Forall₂ (fun content item => Json.read content.toList = ⟨some item, true⟩)
        contents items) ∧
    (∀ expr paths, LeadsTo read Expr.ofJson expression expr → AreElements read solutions paths →
      (∃ kept content,
        ((filtering.filtering expression solutions false).outcome read canCreate).Delivers
          filtering.output content ∧
        ShowsSolutions kept filtering.format content ∧
        (filtering.format ≠ .text →
          Document.ofText Solutions.ofJson content.toList = .ok (kept.map Solution.reread) ∧
            ((∀ solution ∈ kept, solution.IsBare) → kept.map Solution.reread = kept)) ∧
        Selected (HoldsFor read canCreate evaluating expression) paths sequence kept) ∧
      (((filtering.filtering expression solutions true).outcome read canCreate).status = 1 ↔
        ∃ path ∈ paths, LacksTruthFor read canCreate evaluating expression path) ∧
      (((filtering.filtering expression solutions true).outcome read canCreate).status ≠ 1 →
        (filtering.filtering expression solutions true).outcome read canCreate =
          (filtering.filtering expression solutions false).outcome read canCreate)) ∧
    ∀ failure, Unread read Expr.ofJson .expression expression failure →
      (∀ propagateErrors,
        ((filtering.filtering expression solutions propagateErrors).outcome read canCreate).Tells
          filtering.colored failure) ∧
      ∀ path, ((evaluating.evaluating expression path).outcome read canCreate).Tells
        evaluating.colored failure := by
  refine ⟨exists_elements isSequence, fun expr paths isExpr areElements => ?_,
    fun failure unread => ?_⟩
  · have alone := areElements.leadTo isSequence
    have holds := alone.imp fun path solution isSolution =>
      holdsFor_iff evalCreatable isExpr isSolution
    have lacks := alone.imp fun path solution isSolution =>
      lacksTruthFor_iff evalCreatable isExpr isSolution
    have status := status_propagating_iff isExpr isSequence filterCreatable
    obtain ⟨content, delivers, shows⟩ := delivers_excluding isExpr isSequence filterCreatable
    refine ⟨⟨_, content, delivers, shows, fun isDocument => ⟨?_, fun bare => ?_⟩,
      selected_of_forall₂ holds⟩, status.trans (exists_path_iff lacks).symm, fun succeeds => ?_⟩
    · exact shows.ofText_eq isDocument (isValid_filter isSequence _)
    · exact (List.map_congr_left fun solution member =>
        Solution.reread_of_isBare (bare solution member)).trans (List.map_id _)
    · have judged := not_not.mp (mt status.mpr succeeds)
      rw [Invocation.outcome, report_propagating isExpr isSequence judged]
      rfl
  · have refused := readDocument_eq_error.mpr unread
    exact ⟨fun _ => tells_of_report (report_filtering_refused refused),
      fun _ => tells_of_report (report_evaluating_refused refused)⟩

/-! ### A solution that cannot be judged -/

/-- Two solutions, of which only the first has a value for the variable of the expression. -/
def mixedSolutions : Solutions := [Solution.empty.bind ⟨"ok"⟩ (.ofBool true), .empty]

/-- The files of the expression, of both solutions, and of each of them. -/
def mixedFiles (path : String) : Option String :=
  if path = "e.json" then some (Expr.var ⟨"ok"⟩).toJson.text
  else if path = "s.json" then some (Solutions.toJson mixedSolutions).text
  else if path = "1.json" then some (Solution.empty.bind ⟨"ok"⟩ (.ofBool true)).toJson.text
  else if path = "2.json" then some Solution.empty.toJson.text
  else none

theorem mixedFiles_areElements : AreElements mixedFiles "s.json" ["1.json", "2.json"] :=
  ⟨_, isJson_text (Solutions.isBuilt_toJson mixedSolutions) rfl,
    .cons (isJson_text (Solution.isBuilt_toJson _) rfl)
      (.cons (isJson_text (Solution.isBuilt_toJson _) rfl) .nil)⟩

/-- Settings that differ in the format and in the output. -/
def plainSettings (format : OutputFormat) (output : Option String) : Invocation :=
  ⟨false, format, output, false, .sse "e.json" false⟩

/-- The default filter drops the solution without a value, and the other filter fails on it. -/
theorem filter_agrees_with_eval_mixed :
    LeadsTo mixedFiles Solutions.ofJson "s.json" mixedSolutions ∧
    LeadsTo mixedFiles Expr.ofJson "e.json" (.var ⟨"ok"⟩) ∧
    (∃ kept content, (((plainSettings .json (some "kept.json")).filtering "e.json" "s.json"
          false).outcome mixedFiles fun _ => true).Delivers (some "kept.json") content ∧
      Document.ofText Solutions.ofJson content.toList = .ok (kept.map Solution.reread) ∧
      Selected (HoldsFor mixedFiles (fun _ => true) (plainSettings .text none) "e.json")
        ["1.json", "2.json"] mixedSolutions kept) ∧
    (((plainSettings .json (some "kept.json")).filtering "e.json" "s.json" true).outcome mixedFiles
      fun _ => true).status = 1 := by
  have isExpr : LeadsTo mixedFiles Expr.ofJson "e.json" (.var ⟨"ok"⟩) :=
    leadsTo_iff.mpr ⟨_, isJson_text (Expr.isBuilt_toJson _) rfl, rfl⟩
  have isSequence : LeadsTo mixedFiles Solutions.ofJson "s.json" mixedSolutions :=
    leadsTo_iff.mpr ⟨_, isJson_text (Solutions.isBuilt_toJson _) rfl, rfl⟩
  have isUnbound : LeadsTo mixedFiles Solution.ofJson "2.json" .empty :=
    leadsTo_iff.mpr ⟨_, isJson_text (Solution.isBuilt_toJson _) rfl, rfl⟩
  have agrees := (filter_agrees_with_eval mixedFiles (fun _ => true)
    (plainSettings .json (some "kept.json")) (plainSettings .text none) "e.json" "s.json"
    mixedSolutions isSequence (fun _ _ => rfl) fun _ _ => rfl).2.1
  obtain ⟨⟨kept, content, delivers, _, isDocument, selected⟩, status, _⟩ :=
    agrees _ _ isExpr mixedFiles_areElements
  refine ⟨isSequence, isExpr, ⟨kept, content, delivers, (isDocument nofun).1, selected⟩,
    status.mpr ⟨"2.json", .tail _ (.head _), .inl ?_⟩⟩
  exact (fails_iff (fun _ _ => rfl) isExpr isUnbound).mpr ⟨_, rfl⟩

end Command

end QueryAlgebra
