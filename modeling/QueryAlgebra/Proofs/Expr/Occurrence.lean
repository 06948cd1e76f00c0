/-
**Occurrences in an expression.**

A path leads from the root of an expression to a node: number zero stands for the tag of a compound
and `n + 1` for its argument with number `n`. `Expr.occurrences` lists every node with its path in
pre-order, which is the lexicographic order of the paths (`occurrences_sorted`).

A path is *exposed* when none of a list of blocked paths leads properly above it. Among the operands
of a node, the paths into one operand have no bearing on those into another (`exposed_operands`).
-/
import QueryAlgebra.Expr.Basic

namespace QueryAlgebra.Expr

/-- The numbers of the operands on the way from the root to a node. -/
abbrev Path := List Nat

/-- A node with its path. -/
abbrev Occurrence := Path × Expr

/-- The occurrence in a node of an occurrence in its operand of a number. -/
def Occurrence.under (number : Nat) (occurrence : Occurrence) : Occurrence :=
  (number :: occurrence.1, occurrence.2)

mutual

/-- The nodes with their paths, a node before its operands and those from left to right. -/
def occurrences : Expr → List Occurrence
  | .compound tag args aggregate =>
    ([], .compound tag args aggregate) ::
      (tag.occurrences.map (Occurrence.under 0) ++ occurrencesFrom 1 args)
  | .constant term => [([], .constant term)]
  | .var reference => [([], .var reference)]

/-- The nodes of operands that are numbered from a number on. -/
def occurrencesFrom (number : Nat) : List Expr → List Occurrence
  | [] => []
  | expr :: rest =>
    expr.occurrences.map (Occurrence.under number) ++ occurrencesFrom (number + 1) rest

end

/-- The occurrences are the root and those in the operands. -/
theorem occurrences_eq (expr : Expr) :
    expr.occurrences = ([], expr) :: occurrencesFrom 0 expr.operands := by
  cases expr with
  | compound tag args aggregate => rw [occurrences, operands, occurrencesFrom]
  | constant term => rfl
  | var reference => rfl

/-- The path of an occurrence in operands begins with the number of one of them. -/
theorem path_of_mem_occurrencesFrom {number : Nat} {exprs : List Expr} {occurrence : Occurrence}
    (member : occurrence ∈ occurrencesFrom number exprs) :
    ∃ first path, number ≤ first ∧ occurrence.1 = first :: path := by
  induction exprs generalizing number with
  | nil => cases member
  | cons expr rest inRest =>
    rw [occurrencesFrom, List.mem_append, List.mem_map] at member
    rcases member with ⟨inner, _, rfl⟩ | member
    · exact ⟨number, inner.1, Nat.le_refl _, rfl⟩
    · obtain ⟨first, path, later, same⟩ := inRest member
      exact ⟨first, path, by omega, same⟩

theorem forall_mem_occurrencesFrom (property : Expr → Prop) (number : Nat) (exprs : List Expr) :
    (∀ occurrence ∈ occurrencesFrom number exprs, property occurrence.2) ↔
      ∀ expr ∈ exprs, ∀ occurrence ∈ expr.occurrences, property occurrence.2 := by
  induction exprs generalizing number with
  | nil => simp [occurrencesFrom]
  | cons expr rest inRest =>
    rw [occurrencesFrom, List.forall_mem_append, List.forall_mem_map, List.forall_mem_cons, inRest]
    rfl

/-- All nodes of an expression have a property when it has it and all nodes of its operands do. -/
theorem forall_mem_occurrences (property : Expr → Prop) (expr : Expr) :
    (∀ occurrence ∈ expr.occurrences, property occurrence.2) ↔
      property expr ∧
        ∀ operand ∈ expr.operands, ∀ occurrence ∈ operand.occurrences, property occurrence.2 := by
  rw [occurrences_eq, List.forall_mem_cons, forall_mem_occurrencesFrom]

/-- A node of an operand is a node of the expression. -/
theorem exists_mem_occurrences_of_operand {property : Expr → Prop} {expr operand : Expr}
    (member : operand ∈ expr.operands)
    (found : ∃ occurrence ∈ operand.occurrences, property occurrence.2) :
    ∃ occurrence ∈ expr.occurrences, property occurrence.2 := by
  refine Classical.byContradiction fun none => ?_
  have free : ∀ occurrence ∈ expr.occurrences, ¬property occurrence.2 :=
    fun occurrence occurs holds => none ⟨occurrence, occurs, holds⟩
  obtain ⟨occurrence, occurs, holds⟩ := found
  exact ((forall_mem_occurrences (¬property ·) expr).mp free).2 operand member occurrence occurs holds

/-- An expression is one of its nodes. -/
theorem mem_occurrences_self (expr : Expr) : ([], expr) ∈ expr.occurrences := by
  rw [occurrences_eq]
  exact List.mem_cons_self

/-- One occurrence stands before another in pre-order. -/
def Occurrence.Before (first second : Occurrence) : Prop := first.1 < second.1

theorem occurrencesFrom_sorted {exprs : List Expr} (number : Nat)
    (each : ∀ expr ∈ exprs, expr.occurrences.Pairwise Occurrence.Before) :
    (occurrencesFrom number exprs).Pairwise Occurrence.Before := by
  induction exprs generalizing number with
  | nil => exact List.Pairwise.nil
  | cons expr rest inRest =>
    rw [occurrencesFrom, List.pairwise_append]
    refine ⟨?_, inRest (number + 1) fun other member => each other (.tail _ member), ?_⟩
    · rw [List.pairwise_map]
      exact (each expr List.mem_cons_self).imp fun before =>
        List.cons_lt_cons_iff.mpr (.inr ⟨rfl, before⟩)
    · intro front inFront back inBack
      obtain ⟨inner, _, rfl⟩ := List.mem_map.mp inFront
      obtain ⟨first, path, after, same⟩ := path_of_mem_occurrencesFrom inBack
      show number :: inner.1 < back.1
      rw [same]
      exact List.cons_lt_cons_iff.mpr (.inl after)

/-- **The occurrences stand in pre-order**, and no path occurs twice. -/
theorem occurrences_sorted (expr : Expr) : expr.occurrences.Pairwise Occurrence.Before := by
  induction expr using operandInduction with
  | node expr inOperands =>
    rw [occurrences_eq]
    refine List.Pairwise.cons (fun occurrence member => ?_) (occurrencesFrom_sorted 0 inOperands)
    obtain ⟨first, path, _, same⟩ := path_of_mem_occurrencesFrom member
    show [] < occurrence.1
    rw [same]
    exact List.nil_lt_cons first path

/-! ### Exposed paths -/

/-- Whether none of some paths leads properly above a path. -/
def Exposed (blocked : List Path) (path : Path) : Prop :=
  ∀ above ∈ blocked, above <+: path → above = path

instance (blocked : List Path) (path : Path) : Decidable (Exposed blocked path) :=
  inferInstanceAs (Decidable (∀ above ∈ blocked, above <+: path → above = path))

/-- The occurrences that are exposed. -/
def exposed (blocked : List Path) (occurrences : List Occurrence) : List Occurrence :=
  occurrences.filter fun occurrence => Exposed blocked occurrence.1

/-- The root is always exposed. -/
theorem exposed_root (blocked : List Path) (node : Expr) (rest : List Occurrence) :
    exposed blocked (([], node) :: rest) = ([], node) :: exposed blocked rest := by
  have root : Exposed blocked [] := fun above _ isPrefix => List.prefix_nil.mp isPrefix
  rw [exposed, List.filter_cons, if_pos (decide_eq_true root)]
  rfl

/-- Below a blocked root nothing is exposed. -/
theorem exposed_below_root {blocked : List Path} (root : [] ∈ blocked) (exprs : List Expr) :
    exposed blocked (occurrencesFrom 0 exprs) = [] := by
  rw [exposed, List.filter_eq_nil_iff]
  intro occurrence member decided
  obtain ⟨first, path, _, same⟩ := path_of_mem_occurrencesFrom member
  have equal := of_decide_eq_true decided [] root (List.nil_prefix)
  rw [same] at equal
  cases equal

/-- **The paths into one operand have no bearing on those into another.** -/
theorem exposed_operands {number : Nat} {inFirst inRest : List Path} (expr : Expr)
    (rest : List Expr)
    (later : ∀ path ∈ inRest, ∃ first tail, number < first ∧ path = first :: tail) :
    exposed (inFirst.map (number :: ·) ++ inRest) (occurrencesFrom number (expr :: rest)) =
      (exposed inFirst expr.occurrences).map (Occurrence.under number) ++
        exposed inRest (occurrencesFrom (number + 1) rest) := by
  unfold exposed
  rw [occurrencesFrom, List.filter_append, List.filter_map]
  congr 1
  · congr 1
    refine List.filter_congr fun occurrence _ =>
      decide_eq_decide.mpr ⟨fun free => ?_, fun free => ?_⟩
    · intro above member isPrefix
      have equal := free (number :: above) (List.mem_append_left _ (List.mem_map_of_mem member))
        (List.cons_prefix_cons.mpr ⟨rfl, isPrefix⟩)
      exact (List.cons.inj equal).2
    · intro above member isPrefix
      rcases List.mem_append.mp member with member | member
      · obtain ⟨inner, inside, rfl⟩ := List.mem_map.mp member
        rw [free inner inside (List.cons_prefix_cons.mp isPrefix).2]
        rfl
      · obtain ⟨first, tail, after, rfl⟩ := later above member
        have same : first = number := (List.cons_prefix_cons.mp isPrefix).1
        omega
  · refine List.filter_congr fun occurrence member =>
      decide_eq_decide.mpr ⟨fun free => ?_, fun free => ?_⟩
    · exact fun above inside => free above (List.mem_append_right _ inside)
    · intro above inside isPrefix
      rcases List.mem_append.mp inside with inside | inside
      · obtain ⟨inner, _, rfl⟩ := List.mem_map.mp inside
        obtain ⟨first, tail, after, same⟩ := path_of_mem_occurrencesFrom member
        rw [same] at isPrefix
        have same : number = first := (List.cons_prefix_cons.mp isPrefix).1
        omega
      · exact free above inside isPrefix

end QueryAlgebra.Expr
