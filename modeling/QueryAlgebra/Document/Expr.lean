/-
**Expressions in documents.**

An expression is an object with exactly one member, named for its form. Each compound takes three
levels of containers, so the levels of a document bound the depth of its expressions.
-/
import QueryAlgebra.Document.Term
import QueryAlgebra.Expr.Basic

namespace QueryAlgebra.Expr

open Document

/-- The fields of a compound that were read. -/
structure Fields where
  tag : Option Expr := none
  args : Option (List Expr) := none
  aggregate : Option Bool := none

/-- Reads a member of a compound with the readers of its tag and of its arguments. -/
def readField (readTag : Json → Decoded Expr) (readArgs : Json → Decoded (List Expr))
    (fields : Fields) (key : String) (value : Json) : Decoded Fields :=
  match key with
  | "tag" => return { fields with tag := ← fill fields.tag (readTag value) }
  | "args" => return { fields with args := ← fill fields.args (readArgs value) }
  | "aggregate" => return { fields with aggregate := ← fill fields.aggregate (decodeBool value) }
  | _ => pass fields value

/-- The compound of its fields; it is no aggregate where nothing is said. -/
def ofFields (fields : Fields) : Decoded Expr := do
  let tag ← require fields.tag
  let args ← require fields.args
  return .compound tag args (fields.aggregate.getD false)

mutual

/-- Reads an expression. -/
def ofJson : (levels : Nat) → Json → Decoded Expr
  | 0, _ => .error .malformed
  | levels + 1, .object ((some form, value) :: rest) ending => do
    let expr ←
      match form with
      | "Constant" => ofTerm <$> Term.ofJson levels value
      | "Variable" => var <$> Variable.ofJson value
      | "Compound" => compoundOfJson levels value
      | _ => .error .malformed
    if rest.isEmpty && ending == .closed then .ok expr else .error .malformed
  | _ + 1, _ => .error .malformed

/-- Reads a compound. -/
def compoundOfJson : (levels : Nat) → Json → Decoded Expr
  | 0, _ => .error .malformed
  | levels + 1, value => do
    let members ← recordMembers ["tag", "args", "aggregate"] value
    ofFields (← members.fold (readField (ofJson levels) (argsOfJson levels)) {})

/-- Reads arguments. -/
def argsOfJson : (levels : Nat) → Json → Decoded (List Expr)
  | 0, _ => .error .malformed
  | levels + 1, value => decodeList (ofJson levels) value

end

mutual

/-- The document of an expression. -/
def toJson : Expr → Json
  | .constant term => .ofMembers [("Constant", term.toJson)]
  | .var reference => .ofMembers [("Variable", reference.toJson)]
  | .compound tag args aggregate =>
    .ofMembers [("Compound", .ofMembers [
      ("tag", tag.toJson), ("args", .ofItems (listToJson args)), ("aggregate", .bool aggregate)])]

/-- The documents of expressions. -/
def listToJson : List Expr → List Json
  | [] => []
  | expr :: rest => expr.toJson :: listToJson rest

end

end QueryAlgebra.Expr
