/-
**The depth of an expression.**

`Expr.depth` goes through a list of nodes with their levels. `height` is the depth by recursion on
the tree, and what the list computes from any state on is the greatest of the number so far and the
deepest levels below the pending nodes (`deepest_eq_max`). Hence the depth of a node is one more than
the greatest depth of its operands (`depth_eq`), and a node fits into `n + 1` levels exactly when its
operands fit into `n` (`depth_le_succ_iff`).
-/
import QueryAlgebra.Expr.Basic

namespace QueryAlgebra.Expr

mutual

/-- The nesting depth by recursion on the tree. -/
def height : Expr → Nat
  | .compound tag args _ => 1 + max tag.height (greatestHeight args)
  | .constant _ => 1
  | .var _ => 1

/-- The greatest height of some expressions. -/
def greatestHeight : List Expr → Nat
  | [] => 0
  | expr :: rest => max expr.height (greatestHeight rest)

end

theorem height_eq (expr : Expr) : expr.height = 1 + greatestHeight expr.operands := by
  cases expr with
  | compound tag args aggregate => rw [height, operands, greatestHeight]
  | constant term => rfl
  | var reference => rfl

/-- The deepest level of the nodes at or below pending ones. -/
def deepestLevel : List (Expr × Nat) → Nat
  | [] => 0
  | (expr, level) :: rest => max (level + greatestHeight expr.operands) (deepestLevel rest)

theorem deepestLevel_append (front back : List (Expr × Nat)) :
    deepestLevel (front ++ back) = max (deepestLevel front) (deepestLevel back) := by
  induction front with
  | nil => simp [deepestLevel]
  | cons pending rest inRest =>
    rw [List.cons_append, deepestLevel, deepestLevel, inRest, Nat.max_assoc]

/-- A node and its operands one level below reach as deep as the node alone. -/
theorem deepestLevel_operands (level : Nat) (exprs : List Expr) :
    max level (deepestLevel (exprs.map (·, level + 1))) = level + greatestHeight exprs := by
  induction exprs with
  | nil => simp [deepestLevel, greatestHeight]
  | cons expr rest inRest =>
    rw [List.map_cons, deepestLevel, greatestHeight, height_eq]
    omega

/-- **The list of pending nodes computes the greatest level at or below them.** -/
theorem deepest_eq_max (greatest : Nat) (pending : List (Expr × Nat)) :
    deepest greatest pending = max greatest (deepestLevel pending) := by
  fun_induction deepest greatest pending with
  | case1 greatest => rw [deepestLevel, Nat.max_eq_left (Nat.zero_le _)]
  | case2 greatest expr level rest inRest =>
    have inside := deepestLevel_operands level expr.operands
    rw [inRest, deepestLevel_append, deepestLevel]
    omega

theorem depth_eq_height (expr : Expr) : expr.depth = expr.height := by
  rw [depth, deepest_eq_max, deepestLevel, deepestLevel, height_eq]
  omega

/-! ### Depth and operands -/

/-- The greatest depth of some expressions. -/
def greatestDepth (exprs : List Expr) : Nat := (exprs.map depth).foldr max 0

/-- **The depth of a node is one more than the greatest depth of its operands.** -/
theorem depth_eq (expr : Expr) : expr.depth = 1 + greatestDepth expr.operands := by
  have same (exprs : List Expr) : greatestHeight exprs = greatestDepth exprs := by
    induction exprs with
    | nil => rfl
    | cons first rest inRest =>
      rw [greatestHeight, inRest, ← depth_eq_height]
      rfl
  rw [depth_eq_height, height_eq, same]

theorem greatestDepth_le_iff {exprs : List Expr} {bound : Nat} :
    greatestDepth exprs ≤ bound ↔ ∀ expr ∈ exprs, expr.depth ≤ bound := by
  induction exprs with
  | nil => simp [greatestDepth]
  | cons expr rest inRest =>
    rw [List.forall_mem_cons, ← inRest]
    exact Nat.max_le

/-- **A node fits into a number of levels when its operands fit into one less.** -/
theorem depth_le_succ_iff {expr : Expr} {levels : Nat} :
    expr.depth ≤ levels + 1 ↔ ∀ operand ∈ expr.operands, operand.depth ≤ levels := by
  rw [← greatestDepth_le_iff, depth_eq]
  omega

theorem depth_pos (expr : Expr) : 0 < expr.depth := by
  rw [depth_eq]
  omega

theorem depth_of_leaf {expr : Expr} (leaf : expr.operands = []) : expr.depth = 1 := by
  rw [depth_eq, leaf]
  rfl

theorem depth_operand_lt {expr operand : Expr} (member : operand ∈ expr.operands) :
    operand.depth < expr.depth := by
  have below := greatestDepth_le_iff.mp (Nat.le_refl (greatestDepth expr.operands)) operand member
  rw [depth_eq expr]
  omega

end QueryAlgebra.Expr
