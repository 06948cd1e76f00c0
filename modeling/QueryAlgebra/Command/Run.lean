/-
**Running a command.**

A command reads its documents, computes a result and hands it to one place: the output file, if one
is named, or else the standard output. If anything fails, nothing is written but the error.
-/
import QueryAlgebra.Command.Files
import QueryAlgebra.Command.Invocation
import QueryAlgebra.Document.Expr
import QueryAlgebra.Document.Pattern
import QueryAlgebra.Document.Solution
import QueryAlgebra.Expr.Sse
import QueryAlgebra.Filter
import QueryAlgebra.Json.Printer

namespace QueryAlgebra.Command

/-- What a document holds, in messages. -/
inductive DocumentRole
  | expression
  | bindings
  | solutions
  | pattern
  deriving DecidableEq, Repr

/-- The name of what a document holds. -/
def DocumentRole.name : DocumentRole → String
  | expression => "expression"
  | bindings => "bindings"
  | solutions => "solutions"
  | pattern => "pattern"

/-- Why a command fails. -/
inductive Failure
  | unreadable (role : DocumentRole) (path : String)
  | unparsable (role : DocumentRole) (path : String) (fault : DecodeFault)
  | evaluation (expr : Expr) (error : EvalError)
  | filtering (expr : Expr) (error : EvalError)
  | uncreatable (path : String)
  deriving DecidableEq

/-- The wording of a failure; why a document is refused is not told. -/
def Failure.message : Failure → String
  | unreadable role path => "Failed to read " ++ role.name ++ " file: " ++ path
  | unparsable role path _ => "Failed to parse " ++ role.name ++ " file: " ++ path
  | evaluation expr error => "Failed to evaluate " ++ expr.sseText ++ ": " ++ error.message
  | filtering expr error => "Failed to filter by " ++ expr.sseText ++ ": " ++ error.message
  | uncreatable path => "Failed to create output file: " ++ path

/-- Remarks on the way to a result, and the result. -/
structure Report where
  remarks : List String := []
  result : Except Failure String

/-- Reads a document from a file. -/
def readDocument {α : Type} (read : String → Option String) (role : DocumentRole)
    (decode : (levels : Nat) → Json → Decoded α) (path : String) : Except Failure α :=
  match read path with
  | none => .error (.unreadable role path)
  | some content =>
    match Document.ofText decode content.toList with
    | .ok value => .ok value
    | .error fault => .error (.unparsable role path fault)

/-- The text of a result, or of its document. -/
def render (format : OutputFormat) (text : String) (document : Json) : String :=
  match format with
  | .text => text
  | .json => document.text
  | .indentedJson => document.indentedText

/-- The solutions, one on a line. -/
def solutionLines (solutions : Solutions) : String :=
  String.ofList (['\n'].intercalate (solutions.map Solution.display))

/-- A count in digits. -/
def countText (count : Nat) : String := String.ofList (Text.digitsOf count)

/-- Evaluates an expression for a solution. -/
def reportValue (invocation : Invocation) (maxDepth : Option Nat) (expr : Expr)
    (solution : Solution) : Report :=
  let options : Options := { maxDepth := maxDepth.getD Options.default.maxDepth }
  { remarks :=
      if invocation.verbose then
        ["Evaluating " ++ expr.sseText, "Bindings: " ++ String.ofList solution.display]
      else []
    result :=
      match Evaluator.standard.evaluate options solution.bindings expr with
      | .ok term => .ok (render invocation.format term.text term.toJson)
      | .error error => .error (.evaluation expr error) }

/-- Filters solutions by an expression. -/
def reportFilter (invocation : Invocation) (policy : FilterErrorPolicy) (expr : Expr)
    (solutions : Solutions) : Report :=
  match Evaluator.standard.filter { filterErrors := policy } solutions (.expression expr) with
  | .error error => { result := .error (.filtering expr error) }
  | .ok kept =>
    { remarks :=
        if invocation.verbose then
          ["Kept " ++ countText kept.length ++ " of " ++ countText solutions.length ++
            " solution(s)"]
        else []
      result := .ok (render invocation.format (solutionLines kept) (Solutions.toJson kept)) }

/-- The report on a result, or on the failure to read what it needs. -/
def reportOn {α : Type} (needed : Except Failure α) (report : α → Report) : Report :=
  match needed with
  | .ok value => report value
  | .error failure => { result := .error failure }

/-- Carries out the task of an invocation. -/
def Invocation.report (read : String → Option String) (invocation : Invocation) : Report :=
  let readExpr := readDocument read .expression Expr.ofJson
  match invocation.task with
  | .eval expression bindings maxDepth =>
    reportOn (readExpr expression) fun expr =>
      let solution :=
        match bindings with
        | some path => readDocument read .bindings Solution.ofJson path
        | none => .ok .empty
      reportOn solution (reportValue invocation maxDepth expr)
  | .filter expression solutions propagateErrors =>
    reportOn (readExpr expression) fun expr =>
      reportOn (readDocument read .solutions Solutions.ofJson solutions)
        (reportFilter invocation (if propagateErrors then .propagate else .exclude) expr)
  | .sse file false => reportOn (readExpr file) fun expr => { result := .ok expr.sseText }
  | .sse file true =>
    reportOn (readDocument read .pattern Pattern.ofJson file) fun pattern =>
      { result := .ok pattern.sseText }

/-- What a run leaves behind. -/
structure Outcome where
  status : Nat
  stdout : String := ""
  stderr : List String := []
  /-- The path and the content of the file that is written. -/
  written : Option (String × String) := none
  deriving DecidableEq, Repr

/-- The label of a failure. -/
def errorLabel (colored : Bool) : String :=
  if colored then "\x1b[1;31mError:\x1b[0m" else "Error:"

/-- The label of a success. -/
def successLabel (colored : Bool) : String :=
  if colored then "\x1b[1;32mSuccess:\x1b[0m" else "Success:"

/-- The outcome of a failure. -/
def Outcome.ofFailure (colored : Bool) (remarks : List String) (failure : Failure) : Outcome where
  status := 1
  stderr := remarks ++ [errorLabel colored ++ " " ++ failure.message]

/-- Hands a result to its place. -/
def Invocation.deliver (invocation : Invocation) (canCreate : String → Bool) (report : Report) :
    Outcome :=
  match report.result, invocation.output with
  | .error failure, _ => .ofFailure invocation.colored report.remarks failure
  | .ok content, none => { status := 0, stdout := content ++ "\n", stderr := report.remarks }
  | .ok content, some path =>
    if canCreate path then
      { status := 0
        stderr := report.remarks ++
          [successLabel invocation.colored ++ " Output written to " ++ path]
        written := some (path, content ++ "\n") }
    else .ofFailure invocation.colored report.remarks (.uncreatable path)

/-- The description of the arguments. -/
def usageText : String :=
  "Usage: sparql-algebra [OPTIONS] <COMMAND>\n\n" ++
  "Commands:\n" ++
  "  eval <EXPRESSION> [-b <BINDINGS>] [--max-depth <MAX_DEPTH>]\n" ++
  "  filter <EXPRESSION> <SOLUTIONS> [--propagate-errors]\n" ++
  "  sse <FILE> [-p]\n\n" ++
  "Options: -v, -f <FORMAT>, -o <OUTPUT>, --color <COLOR>\n"

/-- The outcome of arguments that run no command. -/
def Outcome.ofHalt : Halt → Outcome
  | .usage => { status := 2, stderr := [usageText] }
  | .version => { status := 0, stdout := "sparql-algebra 0.1.0\n" }
  | .help => { status := 0, stdout := usageText }

/-- Runs arguments with a way to read files and to tell which files can be created. -/
def run (read : String → Option String) (canCreate : String → Bool) (arguments : List String) :
    Outcome :=
  match Invocation.ofArguments arguments with
  | .error halt => .ofHalt halt
  | .ok invocation => invocation.deliver canCreate (invocation.report read)

/-- Runs arguments on files; the outcome, and the files afterwards. -/
def Files.run (files : Files) (arguments : List String) : Outcome × Files :=
  let outcome := Command.run files.read files.canCreate arguments
  (outcome, match outcome.written with
    | some (path, content) => files.write path content
    | none => files)

end QueryAlgebra.Command
