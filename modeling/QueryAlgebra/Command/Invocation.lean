/-
**Invocations.**

What the arguments ask for: a command with its operands, and where and in what form its result goes.
An option that is given both before and after the name of the command has the later value.
-/
import QueryAlgebra.Command.Arguments
import QueryAlgebra.Power
import QueryAlgebra.Text.Casing
import QueryAlgebra.Text.Digits

namespace QueryAlgebra.Command

/-- How a result is written. -/
inductive OutputFormat
  | text
  | json
  | indentedJson
  deriving DecidableEq, Repr

/-- The format of a name, in which case does not count; text, where there is no such format. -/
def OutputFormat.ofText (name : String) : OutputFormat :=
  let lower := String.ofList (Text.lowerCase name.toList)
  if lower = "json" then json
  else if lower = "pretty" ∨ lower = "json-pretty" then indentedJson
  else text

/-- A command with its operands. -/
inductive Task
  | eval (expression : String) (bindings : Option String) (maxDepth : Option Nat)
  | filter (expression solutions : String) (propagateErrors : Bool)
  | sse (file : String) (pattern : Bool)
  deriving DecidableEq, Repr

/-- The paths of the documents that a task reads. -/
def Task.inputs : Task → List String
  | eval expression bindings _ => expression :: bindings.toList
  | filter expression solutions _ => [expression, solutions]
  | sse file _ => [file]

/-- What the arguments ask for. -/
structure Invocation where
  verbose : Bool
  format : OutputFormat
  /-- The path of the file that takes the result. -/
  output : Option String
  colored : Bool
  task : Task
  deriving DecidableEq, Repr

/-- A path, which is not empty. -/
def readPath (text : String) : Except Halt String :=
  if text = "" then .error .usage else .ok text

/-- A word of 64 bits in digits, which a plus sign may precede. -/
def readWord (text : String) : Except Halt Nat :=
  let digits :=
    match text.toList with
    | '+' :: rest => rest
    | all => all
  let word := Text.valueOf digits
  if !digits.isEmpty && digits.all Text.isDigit && word < twoTo 64 then .ok word
  else .error .usage

/-- A word that may be missing. -/
def readOptionalWord : Option String → Except Halt (Option Nat)
  | none => .ok none
  | some text => some <$> readWord text

/-- The task of a command at its level. -/
def readTask (level : Level) : CommandName → Except Halt Task
  | .eval =>
    match level.operands with
    | [expression] => do
      let expression ← readPath expression
      let maxDepth ← readOptionalWord (level.value? .maxDepth)
      return .eval expression (level.value? .bindings) maxDepth
    | _ => .error .usage
  | .filter =>
    match level.operands with
    | [expression, solutions] => do
      let expression ← readPath expression
      let solutions ← readPath solutions
      return .filter expression solutions (level.has .propagateErrors)
    | _ => .error .usage
  | .sse =>
    match level.operands with
    | [file] => do
      let file ← readPath file
      return .sse file (level.has .pattern)
    | _ => .error .usage

/-- The value of an option that every level has; the inner level comes first. -/
def Levels.value? (levels : Levels) (option : OptionName) : Option String :=
  (levels.inner.value? option).or (levels.outer.value? option)

/-- Reads arguments. -/
def Invocation.ofArguments (arguments : List String) : Except Halt Invocation := do
  let levels ← readLevels ({}, none) arguments
  let task ← readTask levels.inner levels.command
  let color := (levels.value? .color).getD "auto"
  return {
    verbose := (levels.value? .verbose).isSome
    format := .ofText ((levels.value? .format).getD "text")
    output := levels.value? .output
    colored := String.ofList (Text.lowerCase color.toList) == "always"
    task := task }

/-- The paths that arguments name for reading. -/
def inputsOf (arguments : List String) : List String :=
  match Invocation.ofArguments arguments with
  | .ok invocation => invocation.task.inputs
  | .error _ => []

end QueryAlgebra.Command
