/-
**Command-line arguments.**

Arguments are read at one level until a command is named, and at the level of the command from then
on. At each level an option is given at most once. An option that takes a value takes the rest of
its argument or the next argument, which must not look like an option; short options may stand
together. After two dashes everything is an operand.
-/
namespace QueryAlgebra.Command

/-- The options. -/
inductive OptionName
  | verbose
  | format
  | output
  | color
  | bindings
  | maxDepth
  | propagateErrors
  | pattern
  deriving DecidableEq, Repr

namespace OptionName

/-- The long form of an option. -/
def long : OptionName → String
  | verbose => "verbose"
  | format => "format"
  | output => "output"
  | color => "color"
  | bindings => "bindings"
  | maxDepth => "max-depth"
  | propagateErrors => "propagate-errors"
  | pattern => "pattern"

/-- The letter of an option. -/
def letter? : OptionName → Option Char
  | verbose => some 'v'
  | format => some 'f'
  | output => some 'o'
  | bindings => some 'b'
  | pattern => some 'p'
  | color | maxDepth | propagateErrors => none

/-- Whether an option takes a value. -/
def takesValue : OptionName → Bool
  | verbose | propagateErrors | pattern => false
  | format | output | color | bindings | maxDepth => true

/-- Whether an option takes a text as its value; a path is not empty. -/
def accepts (option : OptionName) (value : String) : Bool :=
  match option with
  | output | bindings => value != ""
  | verbose | format | color | maxDepth | propagateErrors | pattern => true

/-- The options of every level. -/
def everywhere : List OptionName := [verbose, format, output, color]

end OptionName

/-- The commands. -/
inductive CommandName
  | eval
  | filter
  | sse
  deriving DecidableEq, Repr

namespace CommandName

/-- The command of a name. -/
def ofText? (text : String) : Option CommandName :=
  if text = "eval" then some eval
  else if text = "filter" then some filter
  else if text = "sse" then some sse
  else none

/-- The options of a command. -/
def options : CommandName → List OptionName
  | eval => OptionName.everywhere ++ [.bindings, .maxDepth]
  | filter => OptionName.everywhere ++ [.propagateErrors]
  | sse => OptionName.everywhere ++ [.pattern]

end CommandName

/-- Why no command is run. -/
inductive Halt
  /-- The arguments make no sense. -/
  | usage
  | version
  | help
  deriving DecidableEq, Repr

/-- What is given at a level. -/
structure Level where
  /-- The options with their values; one that takes no value has an empty one. -/
  options : List (OptionName × String) := []
  operands : List String := []
  deriving DecidableEq, Repr

namespace Level

/-- The value of an option, if it is given. -/
def value? (level : Level) (option : OptionName) : Option String := level.options.lookup option

/-- Whether an option is given. -/
def has (level : Level) (option : OptionName) : Bool := (level.value? option).isSome

/-- The level with an option given, once and with a value that it takes. -/
def give (level : Level) (option : OptionName) (value : String) : Except Halt Level :=
  if level.has option || !option.accepts value then .error .usage
  else .ok { level with options := level.options ++ [(option, value)] }

/-- The level with one more operand. -/
def operand (level : Level) (text : String) : Level :=
  { level with operands := level.operands ++ [text] }

end Level

/-- A level together with an option that waits for its value. -/
abbrev Pending := Level × Option OptionName

/-- Reads letters that stand together after a dash. -/
def readLetters (known : List OptionName) (top : Bool) (level : Level) :
    List Char → Except Halt Pending
  | [] => .ok (level, none)
  | c :: rest =>
    match known.find? (·.letter? = some c) with
    | some option =>
      if option.takesValue then
        match rest with
        | [] => .ok (level, some option)
        | '=' :: value => return (← level.give option (String.ofList value), none)
        | value => return (← level.give option (String.ofList value), none)
      else do readLetters known top (← level.give option "") rest
    | none =>
      if c = 'V' ∧ top then .error .version
      else if c = 'h' then .error .help
      else .error .usage

/-- Reads what stands after two dashes. -/
def readLong (known : List OptionName) (top : Bool) (level : Level) (text : List Char) :
    Except Halt Pending :=
  let name := String.ofList (text.takeWhile (· != '='))
  let attached := text.dropWhile (· != '=')
  match known.find? (·.long = name), attached with
  | some option, [] =>
    if option.takesValue then .ok (level, some option)
    else return (← level.give option "", none)
  | some option, _ :: value =>
    if option.takesValue then return (← level.give option (String.ofList value), none)
    else .error .usage
  | none, [] =>
    if name = "version" ∧ top then .error .version
    else if name = "help" then .error .help
    else .error .usage
  | none, _ => .error .usage

/-- Whether an argument looks like an option. -/
def looksLikeOption : List Char → Bool
  | '-' :: _ :: _ => true
  | _ => false

/-- Reads the arguments of a command. -/
def readOperands (known : List OptionName) : Pending → List String → Except Halt Level
  | (level, none), [] => .ok level
  | (_, some _), [] => .error .usage
  | (level, some option), text :: rest =>
    if looksLikeOption text.toList then .error .usage
    else do readOperands known (← level.give option text, none) rest
  | (level, none), text :: rest =>
    match text.toList with
    | ['-', '-'] => .ok (rest.foldl Level.operand level)
    | '-' :: '-' :: long => do readOperands known (← readLong known false level long) rest
    | '-' :: c :: letters => do
      readOperands known (← readLetters known false level (c :: letters)) rest
    | _ => readOperands known (level.operand text, none) rest

/-- The levels before and after the name of a command. -/
structure Levels where
  outer : Level
  command : CommandName
  inner : Level
  deriving DecidableEq, Repr

/-- Reads arguments up to the name of a command and those of the command. -/
def readLevels : Pending → List String → Except Halt Levels
  | _, [] => .error .usage
  | (level, some option), text :: rest =>
    if looksLikeOption text.toList then .error .usage
    else do readLevels (← level.give option text, none) rest
  | (level, none), text :: rest =>
    match CommandName.ofText? text with
    | some command => return ⟨level, command, ← readOperands command.options ({}, none) rest⟩
    | none =>
      match text.toList with
      | ['-', '-'] => .error .usage
      | '-' :: '-' :: long => do readLevels (← readLong OptionName.everywhere true level long) rest
      | '-' :: c :: letters => do
        readLevels (← readLetters OptionName.everywhere true level (c :: letters)) rest
      | _ => if text = "help" then .error .help else .error .usage

end QueryAlgebra.Command
