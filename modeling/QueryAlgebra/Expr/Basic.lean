/-
**Expressions.**

An expression is a constant term, a variable, or a compound: a tag applied to arguments. The tag is
an expression too; its value, with the number of arguments, selects the function. A constant that
holds a variable term counts as that variable. Traversals of trees of any depth keep a list of the
nodes still to visit.
-/
import QueryAlgebra.Term.Basic

namespace QueryAlgebra

/-- An expression; an aggregate is a compound to be replaced by a variable before evaluation. -/
inductive Expr
  | constant (term : Term)
  | var (reference : Variable)
  | compound (tag : Expr) (args : List Expr) (aggregate : Bool)
  deriving Repr

namespace Expr

instance : Inhabited Expr := ⟨.var ⟨""⟩⟩

mutual

/-- Decides whether two expressions are equal. -/
def decideEq : (first second : Expr) → Decidable (first = second)
  | .constant term, .constant other =>
    if same : term = other then isTrue (by rw [same])
    else isFalse fun equal => same (Expr.constant.inj equal)
  | .var reference, .var other =>
    if same : reference = other then isTrue (by rw [same])
    else isFalse fun equal => same (Expr.var.inj equal)
  | .compound tag args aggregate, .compound otherTag otherArgs otherAggregate =>
    match decideEq tag otherTag, decideEqList args otherArgs, decEq aggregate otherAggregate with
    | isTrue sameTag, isTrue sameArgs, isTrue sameFlag =>
      isTrue (by rw [sameTag, sameArgs, sameFlag])
    | isFalse differ, _, _ => isFalse fun equal => differ (Expr.compound.inj equal).1
    | _, isFalse differ, _ => isFalse fun equal => differ (Expr.compound.inj equal).2.1
    | _, _, isFalse differ => isFalse fun equal => differ (Expr.compound.inj equal).2.2
  | .constant _, .var _ => isFalse fun equal => by cases equal
  | .constant _, .compound .. => isFalse fun equal => by cases equal
  | .var _, .constant _ => isFalse fun equal => by cases equal
  | .var _, .compound .. => isFalse fun equal => by cases equal
  | .compound .., .constant _ => isFalse fun equal => by cases equal
  | .compound .., .var _ => isFalse fun equal => by cases equal

/-- Decides whether two lists of expressions are equal. -/
def decideEqList : (first second : List Expr) → Decidable (first = second)
  | [], [] => isTrue rfl
  | [], _ :: _ => isFalse fun equal => by cases equal
  | _ :: _, [] => isFalse fun equal => by cases equal
  | expr :: rest, other :: others =>
    match decideEq expr other, decideEqList rest others with
    | isTrue sameHead, isTrue sameTail => isTrue (by rw [sameHead, sameTail])
    | isFalse differ, _ => isFalse fun equal => differ (List.cons.inj equal).1
    | _, isFalse differ => isFalse fun equal => differ (List.cons.inj equal).2

end

instance : DecidableEq Expr := decideEq

/-- The leaf of a term; a variable term becomes a variable. -/
def ofTerm : Term → Expr
  | .var reference => .var reference
  | term => .constant term

/-- The call of a named function. -/
def call (function : Iri) (args : List Expr) : Expr :=
  .compound (.constant (.iri function)) args false

/-- The variable of a leaf that is one. -/
def var? : Expr → Option Variable
  | .var reference => some reference
  | .constant (.var reference) => some reference
  | _ => none

/-- Whether an expression is an aggregate. -/
def isAggregate : Expr → Bool
  | .compound _ _ aggregate => aggregate
  | _ => false

/-- Whether an expression can be evaluated, which every one can. -/
def isEvaluatable (_ : Expr) : Bool := true

/-- Whether an expression can be executed as a query, which takes more than an expression. -/
def isExecutable (_ : Expr) : Bool := false

/-- The tag and the arguments of a compound. -/
def operands : Expr → List Expr
  | .compound tag args _ => tag :: args
  | _ => []

/-- A node with a tag and arguments in place of its own; a leaf stays as it is. -/
def withOperands : Expr → List Expr → Expr
  | .compound _ _ aggregate, tag :: args => .compound tag args aggregate
  | expr, _ => expr

/-- A property of all expressions, from the operands of a compound to the compound. -/
@[induction_eliminator]
theorem induction {motive : Expr → Prop} (constant : ∀ term, motive (.constant term))
    (var : ∀ reference, motive (.var reference))
    (compound : ∀ tag args aggregate, motive tag → (∀ arg ∈ args, motive arg) →
      motive (.compound tag args aggregate)) (expr : Expr) : motive expr := by
  refine @Expr.rec motive (fun args => ∀ arg ∈ args, motive arg) constant var compound ?_ ?_ expr
  · exact fun _ member => by cases member
  · intro first rest inFirst inRest arg member
    rcases List.mem_cons.mp member with rfl | member
    · exact inFirst
    · exact inRest arg member

/-- A property of all expressions, from the operands of a node to the node. -/
theorem operandInduction {motive : Expr → Prop}
    (node : ∀ expr, (∀ operand ∈ expr.operands, motive operand) → motive expr) (expr : Expr) :
    motive expr := by
  induction expr with
  | constant term => exact node _ fun _ member => by cases member
  | var reference => exact node _ fun _ member => by cases member
  | compound tag args aggregate inTag inArgs =>
    refine node _ fun operand member => ?_
    rcases List.mem_cons.mp member with rfl | member
    · exact inTag
    · exact inArgs operand member

/-- The number of arguments of a compound. -/
def arity? : Expr → Option Nat
  | .compound _ args _ => some args.length
  | _ => none

mutual

/-- The number of nodes. -/
def size : Expr → Nat
  | .compound tag args _ => 1 + tag.size + sizeList args
  | _ => 1

/-- The number of nodes of a list. -/
def sizeList : List Expr → Nat
  | [] => 0
  | expr :: rest => expr.size + sizeList rest

end

theorem size_pos (expr : Expr) : 0 < expr.size := by
  cases expr <;> simp only [size] <;> omega

theorem sizeList_append (front back : List Expr) :
    sizeList (front ++ back) = sizeList front + sizeList back := by
  induction front with
  | nil => simp [sizeList]
  | cons expr rest inRest =>
    simp only [List.cons_append, sizeList, inRest]
    omega

/-- The operands of a node have one node less than it. -/
theorem sizeList_operands_lt (expr : Expr) : sizeList expr.operands < expr.size := by
  cases expr with
  | compound tag args aggregate =>
    simp only [operands, sizeList, size]
    omega
  | constant term => simp [operands, sizeList, size]
  | var reference => simp [operands, sizeList, size]

/-! ### Traversals of nodes still to visit -/

/-- Whether one of the nodes is or contains a variable. -/
def anyVar : List Expr → Bool
  | [] => false
  | expr :: rest => expr.var?.isSome || anyVar (expr.operands ++ rest)
termination_by pending => sizeList pending
decreasing_by
  rw [sizeList_append, sizeList]
  have := sizeList_operands_lt expr
  omega

/-- Whether an expression is or contains a variable. -/
def hasVar (expr : Expr) : Bool := anyVar [expr]

/-- Whether an expression contains no variable. -/
def isConstant (expr : Expr) : Bool := !expr.hasVar

/-- The greatest of a number and the levels of the nodes, their own and those below them. -/
def deepest (greatest : Nat) : List (Expr × Nat) → Nat
  | [] => greatest
  | (expr, level) :: rest =>
    deepest (max greatest level) (expr.operands.map (·, level + 1) ++ rest)
termination_by pending => sizeList (pending.map Prod.fst)
decreasing_by
  have same : (expr.operands.map (·, level + 1)).map Prod.fst = expr.operands := by
    rw [List.map_map]
    exact List.map_id _
  have fewer := sizeList_operands_lt expr
  simp only [List.map_append, same, sizeList_append, List.map_cons, sizeList]
  omega

/-- The nesting depth; a leaf has depth one. -/
def depth (expr : Expr) : Nat := deepest 0 [(expr, 1)]

end Expr

end QueryAlgebra
