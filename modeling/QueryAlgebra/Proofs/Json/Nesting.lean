/-
**How deep containers are nested.**

A container is nested one deeper than what is deepest in it. A bound on the nesting of a container is
a bound on that of everything in it (`nesting_ofItems_le`, `nesting_ofMembers_le`).
-/
import QueryAlgebra.Json.Basic

namespace QueryAlgebra.Json

mutual

/-- The greatest number of containers that stand in each other. -/
def nesting : Json → Nat
  | array items _ => nestingOfItems items + 1
  | object members _ => nestingOfMembers members + 1
  | _ => 0

/-- The nesting of the deepest item. -/
def nestingOfItems : List Json → Nat
  | [] => 0
  | item :: rest => max item.nesting (nestingOfItems rest)

/-- The nesting of the deepest member. -/
def nestingOfMembers : List (Option String × Json) → Nat
  | [] => 0
  | (_, value) :: rest => max value.nesting (nestingOfMembers rest)

end

theorem nestingOfItems_le {items : List Json} {levels : Nat} :
    nestingOfItems items ≤ levels ↔ ∀ item ∈ items, item.nesting ≤ levels := by
  induction items with
  | nil => exact iff_of_true (Nat.zero_le _) (List.forall_mem_nil _)
  | cons item rest inRest => rw [nestingOfItems, Nat.max_le, inRest, List.forall_mem_cons]

theorem nestingOfMembers_le {members : List (String × Json)} {levels : Nat} :
    nestingOfMembers (members.map fun member => (some member.1, member.2)) ≤ levels ↔
      ∀ member ∈ members, member.2.nesting ≤ levels := by
  induction members with
  | nil => exact iff_of_true (Nat.zero_le _) (List.forall_mem_nil _)
  | cons member rest inRest =>
    rw [List.map_cons, nestingOfMembers, Nat.max_le, inRest, List.forall_mem_cons]

/-- An array uses up one level, and its items have those below it. -/
theorem nesting_ofItems_le {items : List Json} {levels : Nat} :
    (ofItems items).nesting ≤ levels ↔
      ∃ below, levels = below + 1 ∧ ∀ item ∈ items, item.nesting ≤ below := by
  rw [ofItems, nesting]
  cases levels with
  | zero => simp
  | succ levels => simp [nestingOfItems_le]

/-- An object uses up one level, and its members have those below it. -/
theorem nesting_ofMembers_le {members : List (String × Json)} {levels : Nat} :
    (ofMembers members).nesting ≤ levels ↔
      ∃ below, levels = below + 1 ∧ ∀ member ∈ members, member.2.nesting ≤ below := by
  rw [ofMembers, nesting]
  cases levels with
  | zero => simp
  | succ levels => simp [nestingOfMembers_le]

end QueryAlgebra.Json
