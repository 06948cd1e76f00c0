/-
**Reading JSON.**

A text is read character by character. The scan tells where in a token the reader stands, and the
builder holds the open containers with what is complete in them. A fault stops the building, and at
the end the containers that are still open are cut there.
-/
import QueryAlgebra.Json.Basic
import QueryAlgebra.Json.Token

namespace QueryAlgebra.Json

/-- A container that is open, its complete contents in reverse. -/
inductive OpenContainer
  | array (items : List Json)
  | object (members : List (Option String × Json))
  /-- An object with a key whose value is to come. -/
  | keyed (members : List (Option String × Json)) (key : Option String)
  deriving Repr

/-- What the builder expects. -/
inductive Expecting
  | value
  | itemOrClose
  | keyOrClose
  | key
  | colon
  /-- A comma, the end of the container or the end of the text. -/
  | nothing
  deriving DecidableEq, Repr

/-- A document under construction. -/
structure Builder where
  expecting : Expecting
  containers : List OpenContainer
  root : Option Json
  faulty : Bool
  deriving Repr

namespace Builder

/-- The builder at the start of a text. -/
def start : Builder := ⟨.value, [], none, false⟩

/-- The builder after a fault. -/
def fault (builder : Builder) : Builder := { builder with faulty := true }

/-- Puts a complete value into the innermost container. -/
def complete (builder : Builder) (value : Json) : Builder :=
  match builder.containers with
  | [] => { builder with root := some value, expecting := .nothing }
  | .array items :: outer =>
    { builder with containers := .array (value :: items) :: outer, expecting := .nothing }
  | .keyed members key :: outer =>
    { builder with containers := .object ((key, value) :: members) :: outer, expecting := .nothing }
  | .object _ :: _ => builder.fault

/-- Opens a container. -/
def enter (builder : Builder) (container : OpenContainer) (expecting : Expecting) : Builder :=
  { builder with containers := container :: builder.containers, expecting := expecting }

/-- Closes the innermost container, if it is an array. -/
def closeArray (builder : Builder) : Builder :=
  match builder.containers with
  | .array items :: outer =>
    { builder with containers := outer }.complete (.array items.reverse .closed)
  | _ => builder.fault

/-- Closes the innermost container, if it is an object. -/
def closeObject (builder : Builder) : Builder :=
  match builder.containers with
  | .object members :: outer =>
    { builder with containers := outer }.complete (.object members.reverse .closed)
  | _ => builder.fault

/-- Takes a key of the innermost container. -/
def takeKey (builder : Builder) (key : Option String) : Builder :=
  match builder.containers with
  | .object members :: outer =>
    { builder with containers := .keyed members key :: outer, expecting := .colon }
  | _ => builder.fault

/-- Goes on after a comma. -/
def takeComma (builder : Builder) : Builder :=
  match builder.containers with
  | .array _ :: _ => { builder with expecting := .value }
  | .object _ :: _ => { builder with expecting := .key }
  | _ => builder.fault

/-- Takes the token that begins a value. -/
def takeValue (builder : Builder) : Token → Builder
  | .null => builder.complete .null
  | .bool value => builder.complete (.bool value)
  | .number numeral => builder.complete (.number numeral)
  | .string text => builder.complete (.string text)
  | .openArray => builder.enter (.array []) .itemOrClose
  | .openObject => builder.enter (.object []) .keyOrClose
  | _ => builder.fault

/-- Takes a token; nothing is taken after a fault. -/
def take (builder : Builder) (token : Token) : Builder :=
  if builder.faulty then builder
  else
    match builder.expecting, token with
    | .itemOrClose, .closeArray => builder.closeArray
    | .itemOrClose, token => builder.takeValue token
    | .value, token => builder.takeValue token
    | .keyOrClose, .closeObject => builder.closeObject
    | .keyOrClose, .string key => builder.takeKey key
    | .key, .string key => builder.takeKey key
    | .colon, .colon => { builder with expecting := .value }
    | .nothing, .comma => builder.takeComma
    | .nothing, .closeArray => builder.closeArray
    | .nothing, .closeObject => builder.closeObject
    | _, _ => builder.fault

/-- The value of open containers that are cut, around what is complete inside of them. -/
def cutContainers (inner : Option Json) : List OpenContainer → Option Json
  | [] => inner
  | .array items :: outer =>
    cutContainers (some (.array (items.reverse ++ inner.toList) .cut)) outer
  | .object members :: outer => cutContainers (some (.object members.reverse .cut)) outer
  | .keyed members key :: outer =>
    let last := inner.toList.map (key, ·)
    cutContainers (some (.object (members.reverse ++ last) .cut)) outer

end Builder

/-- Where in a token the reader stands, what was read of it in reverse. -/
inductive Scan
  | between
  | word (letters : List Char)
  | string (pieces : List Piece)
  | escape (pieces : List Piece)
  /-- In the number of a unit: its value so far and how many digits come after the next. -/
  | hex (pieces : List Piece) (value : Nat) (left : Nat)
  deriving Repr

/-- A reader of a text. -/
structure Reader where
  scan : Scan
  builder : Builder
  deriving Repr

namespace Reader

/-- The reader at the start of a text. -/
def start : Reader := ⟨.between, .start⟩

/-- The reader after a fault. -/
def fault (builder : Builder) : Reader := ⟨.between, builder.fault⟩

/-- Takes a character between tokens. -/
def begin (builder : Builder) (c : Char) : Reader :=
  match mark? c with
  | some token => ⟨.between, builder.take token⟩
  | none =>
    if isSpace c then ⟨.between, builder⟩
    else if c = '"' then ⟨.string [], builder⟩
    else ⟨.word [c], builder⟩

/-- Takes a character. -/
def step (reader : Reader) (c : Char) : Reader :=
  let builder := reader.builder
  match reader.scan with
  | .between => begin builder c
  | .word letters =>
    if endsWord c then begin (builder.take (wordToken letters.reverse)) c
    else ⟨.word (c :: letters), builder⟩
  | .string pieces =>
    if c = '"' then ⟨.between, builder.take (stringToken pieces.reverse)⟩
    else if c = '\\' then ⟨.escape pieces, builder⟩
    else if c < ' ' then fault builder
    else ⟨.string (.char c :: pieces), builder⟩
  | .escape pieces =>
    match escapedChar? c with
    | some escaped => ⟨.string (.char escaped :: pieces), builder⟩
    | none => if c = 'u' then ⟨.hex pieces 0 3, builder⟩ else fault builder
  | .hex pieces value left =>
    match hexValue? c, left with
    | none, _ => fault builder
    | some digit, 0 => ⟨.string (.unit (16 * value + digit) :: pieces), builder⟩
    | some digit, left + 1 => ⟨.hex pieces (16 * value + digit) left, builder⟩

/-- The builder at the end of a text. -/
def finish (reader : Reader) : Builder :=
  match reader.scan with
  | .between => reader.builder
  | .word letters => reader.builder.take (wordToken letters.reverse)
  | _ => reader.builder.fault

end Reader

/-- What was read of a text: its value, if one was begun, and whether the text is that value and
nothing else. -/
structure Reading where
  value : Option Json
  isDocument : Bool
  deriving Repr

/-- Reads a text. -/
def read (text : List Char) : Reading :=
  let builder := (text.foldl Reader.step Reader.start).finish
  { value := Builder.cutContainers builder.root builder.containers
    isDocument := !builder.faulty && builder.containers.isEmpty && builder.root.isSome }

end QueryAlgebra.Json
