/-
**Upper and lower case of texts.**

Every character is mapped by the tables. A capital sigma at the end of a word becomes `ς` in lower
case and `σ` elsewhere: it ends a word when, skipping the characters that casing ignores, a cased
character stands before it and none stands after it.
-/
import QueryAlgebra.Text.CaseTable
import QueryAlgebra.Text.Range

namespace QueryAlgebra.Text

/-- The image of a code point under the first run that holds it. -/
def runImage (runs : List (Nat × Nat × Nat × Nat)) (point : Nat) : Option Nat :=
  (runs.find? fun (first, last, step, _) =>
    first ≤ point && point ≤ last && (point - first) % step == 0).map
      fun (first, _, _, image) => image + (point - first)

/-- The images of a character under an expansion, else under a run, else the character itself. -/
def caseImage (expansions : List (Nat × List Nat)) (runs : List (Nat × Nat × Nat × Nat))
    (c : Char) : List Char :=
  match expansions.lookup c.toNat with
  | some images => images.map Char.ofNat
  | none =>
    match runImage runs c.toNat with
    | some image => [Char.ofNat image]
    | none => [c]

/-- The upper case of a text. -/
def upperCase (text : List Char) : List Char :=
  text.flatMap (caseImage upperExpansions upperRuns)

/-- Whether the first character that casing does not ignore is cased. -/
def meetsCased (text : List Char) : Bool :=
  match text.dropWhile (inRanges caseIgnorableRanges) with
  | [] => false
  | c :: _ => inRanges casedRanges c

/-- The lower case of a text; `before` holds the characters before it, last first. -/
def lowerCaseAfter (before : List Char) : List Char → List Char
  | [] => []
  | c :: rest =>
    let image :=
      if c = 'Σ' then
        if meetsCased before && !meetsCased rest then ['ς'] else ['σ']
      else caseImage lowerExpansions lowerRuns c
    image ++ lowerCaseAfter (c :: before) rest

/-- The lower case of a text. -/
def lowerCase (text : List Char) : List Char := lowerCaseAfter [] text

/-- The lower case of the ASCII letters of a text; all other characters stay. -/
def lowerAscii (text : List Char) : List Char := text.map Char.toLower

end QueryAlgebra.Text
