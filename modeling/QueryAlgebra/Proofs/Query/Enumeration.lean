/-
**The shapes of answers.**

A result is handed on under the shape that its node declares: solutions as they are, and only they,
where solutions are declared, and an enumeration of the single items of any result elsewhere. Calls for
the next item go through the items in order, whatever was declared, and leave the number of those that
are left exact at every call (`next_after`, `size_after`). `dispatch_shapes` puts this together for a
node that a store has executed.
-/
import QueryAlgebra.Proofs.Query.Protocol
import QueryAlgebra.Proofs.Sequence

namespace QueryAlgebra

/-! ### The items of a result -/

namespace QueryResult

/-- What a result holds at a number: a solution, its one truth value, or a statement. -/
inductive Holds : QueryResult → Nat → ResultItem → Prop
  | solution {all : Solutions} {number : Nat} {found : Solution} (listed : all[number]? = some found) :
      Holds (.solutions all) number (.solution found)
  | boolean {value : Bool} : Holds (.boolean value) 0 (.boolean value)
  | statement {all : List Triple} {number : Nat} {found : Triple} (listed : all[number]? = some found) :
      Holds (.statements all) number (.statement found)

/-- How many items a result holds. -/
def count : QueryResult → Nat
  | .solutions all => List.length all
  | .boolean _ => 1
  | .statements all => all.length

variable {result : QueryResult} {number : Nat} {item : ResultItem}

theorem items_getElem?_iff : result.items[number]? = some item ↔ result.Holds number item := by
  constructor
  · intro found
    cases result with
    | solutions all =>
      rw [items, List.getElem?_map, Option.map_eq_some_iff] at found
      obtain ⟨solution, listed, rfl⟩ := found
      exact .solution listed
    | boolean value =>
      rw [items, List.getElem?_singleton] at found
      split at found
      · rename_i first
        cases found
        cases first
        exact .boolean
      · cases found
    | statements all =>
      rw [items, List.getElem?_map, Option.map_eq_some_iff] at found
      obtain ⟨statement, listed, rfl⟩ := found
      exact .statement listed
  · rintro (listed | _ | listed)
    · rw [items, List.getElem?_map, listed, Option.map_some]
    · rfl
    · rw [items, List.getElem?_map, listed, Option.map_some]

theorem length_items (result : QueryResult) : result.items.length = result.count := by
  cases result with
  | solutions all => exact List.length_map _
  | boolean value => rfl
  | statements all => exact List.length_map _

end QueryResult

/-! ### Calls for the next item -/

namespace ResultEnumerator

variable (enumerator : ResultEnumerator) (calls : Nat)

/-- What is left of an enumeration after calls for the next item. -/
def after : Nat → ResultEnumerator
  | 0 => enumerator
  | calls + 1 => (after calls).next.2

/-- **Every call takes the first item off** those that are left. -/
theorem items_after : (enumerator.after calls).items = enumerator.items.drop calls := by
  induction calls with
  | zero => rfl
  | succ calls inCalls =>
    show (enumerator.after calls).items.tail = _
    rw [inCalls, List.tail_drop]

/-- **The calls give the items in order**, and nothing when these are used up. -/
theorem next_after : (enumerator.after calls).next.1 = enumerator.items[calls]? := by
  show (enumerator.after calls).items.head? = _
  rw [items_after, List.head?_drop]

/-- **The number of items that are left** is exact before every call. -/
theorem size_after : (enumerator.after calls).size = enumerator.items.length - calls := by
  rw [size, items_after, List.length_drop]

end ResultEnumerator

/-! ### Results under a declared shape -/

namespace QueryOutput

variable {declared : QueryShape} {result : QueryResult} {output : QueryOutput}

/-- **What is handed on** has the declared shape. -/
theorem shape_of_ofResult (given : ofResult declared result = .ok output) :
    output.shape = declared := by
  cases declared with
  | solutions =>
    cases result with
    | solutions all =>
      cases given
      rfl
    | boolean _ | statements _ => cases given
  | boolean | statements =>
    cases given
    rfl

/-- **Under the shape of solutions** solutions are handed on as they are and nothing else is. -/
theorem ofResult_solutions_eq_ok_iff :
    ofResult .solutions result = .ok output ↔
      ∃ all, result = .solutions all ∧ output = .solutions all := by
  cases result with
  | solutions all =>
    constructor
    · rintro ⟨⟩
      exact ⟨all, rfl, rfl⟩
    · rintro ⟨_, ⟨⟩, rfl⟩
      rfl
  | boolean _ | statements _ => exact ⟨nofun, nofun⟩

theorem ofResult_solutions_of_other (other : ¬∃ all, result = .solutions all) :
    ofResult .solutions result = .error (.typeMismatch (.notSolutions result.shape)) := by
  cases result with
  | solutions all => exact absurd ⟨all, rfl⟩ other
  | boolean _ | statements _ => rfl

/-- **Under any other shape** every result is enumerated. -/
theorem ofResult_of_ne_solutions (other : declared ≠ .solutions) (result : QueryResult) :
    ofResult declared result = .ok (.enumerator (.ofResult declared result)) := by
  cases declared with
  | solutions => exact absurd rfl other
  | boolean | statements => rfl

end QueryOutput

/-! ### The answers of a dispatcher -/

namespace Hooks

variable {σ : Type} (hooks : Hooks σ) (store : Store σ) (options : Options) (node : Node σ) (start : σ)

/-- What a dispatcher gives for a node. -/
def answer : Except EvalError QueryOutput :=
  ((hooks.dispatch store options (.node node)).outcome start).1

/-- What a store gives a dispatcher for a node, after the first hook. -/
def rawResult : Except EvalError QueryResult :=
  ((store.execute node (store.arity.optionsFor options)).outcome
    (stateAfter hooks.before node start)).1

theorem answer_eq (queryable : store.isQueryable = true) :
    hooks.answer store options node start =
      hooks.rawResult store options node start >>= QueryOutput.ofResult node.shape := by
  unfold answer rawResult dispatch
  rw [if_pos queryable, execute_outcome]
  rcases (store.execute node (store.arity.optionsFor options)).outcome
    (stateAfter hooks.before node start) with ⟨_ | _, _⟩ <;> rfl

theorem answer_of_not_queryable (refuses : store.isQueryable = false) :
    hooks.answer store options node start = .error .notQueryable := by
  unfold answer dispatch
  rw [refuses]
  rfl

/-- **Results are handed on whole.** An answer has the shape that the node declares. Of what the store
gives, exactly solutions are an answer where solutions are declared, and they stay as they are; another
result is a mismatch of types. Where another shape is declared, any result is enumerated: the calls for
the next item give its items in order and then nothing, and before each call the number of items that
are left is exact. -/
theorem dispatch_shapes :
    (∀ output, hooks.answer store options node start = .ok output → output.shape = node.shape) ∧
    (store.isQueryable = true →
      ∀ result, hooks.rawResult store options node start = .ok result →
        (node.shape = .solutions →
          (∀ output, hooks.answer store options node start = .ok output ↔
            ∃ all, result = .solutions all ∧ output = .solutions all) ∧
          ((¬∃ all, result = .solutions all) →
            hooks.answer store options node start =
              .error (.typeMismatch (.notSolutions result.shape)))) ∧
        (node.shape ≠ .solutions → ∃ enumerator : ResultEnumerator,
          hooks.answer store options node start = .ok (.enumerator enumerator) ∧
          ∀ calls,
            (∀ item, (enumerator.after calls).next.1 = some item ↔ result.Holds calls item) ∧
            (result.count ≤ calls → (enumerator.after calls).next.1 = none) ∧
            (enumerator.after calls).size = result.count - calls)) := by
  constructor
  · intro output given
    cases queryable : store.isQueryable with
    | false =>
      rw [hooks.answer_of_not_queryable store options node start queryable] at given
      cases given
    | true =>
      rw [hooks.answer_eq store options node start queryable, bind_eq_ok] at given
      obtain ⟨result, _, given⟩ := given
      exact QueryOutput.shape_of_ofResult given
  · intro queryable result executed
    have handedOn : hooks.answer store options node start = QueryOutput.ofResult node.shape result := by
      rw [hooks.answer_eq store options node start queryable, executed]
      rfl
    rw [handedOn]
    constructor
    · intro declared
      rw [declared]
      exact ⟨fun output => QueryOutput.ofResult_solutions_eq_ok_iff,
        QueryOutput.ofResult_solutions_of_other⟩
    · intro other
      refine ⟨_, QueryOutput.ofResult_of_ne_solutions other result, fun calls => ⟨fun item => ?_,
        fun usedUp => ?_, ?_⟩⟩
      · rw [ResultEnumerator.next_after]
        exact QueryResult.items_getElem?_iff
      · rw [ResultEnumerator.next_after, List.getElem?_eq_none_iff]
        exact Nat.le_trans (Nat.le_of_eq result.length_items) usedUp
      · rw [ResultEnumerator.size_after]
        exact congrArg (· - calls) result.length_items

/-- Two solutions where statements are declared are enumerated all the same. -/
theorem dispatch_shapes_mismatch :
    let store : Store Unit := { matchPattern := fun _ _ => pure [] }
    let truth : Solution := Solution.empty.bind ⟨"x"⟩ (.ofBool true)
    let node : Node Unit := .operator
      { tag := "construct", shape := .statements,
        execute := fun _ _ => pure (.solutions [Solution.empty, truth]) }
    ∃ enumerator : ResultEnumerator,
      ({} : Hooks Unit).answer store {} node () = .ok (.enumerator enumerator) ∧
        enumerator.shape = .statements ∧
        (enumerator.after 1).next.1 = some (.solution truth) ∧ (enumerator.after 1).size = 1 ∧
        (enumerator.after 2).next.1 = none ∧ (enumerator.after 2).size = 0 := by
  intro store truth node
  obtain ⟨declared, ofResult⟩ := ({} : Hooks Unit).dispatch_shapes store {} node ()
  obtain ⟨_, enumerated⟩ := ofResult rfl (.solutions [Solution.empty, truth]) rfl
  obtain ⟨enumerator, given, calls⟩ := enumerated (by decide)
  exact ⟨enumerator, given, declared _ given, ((calls 1).1 _).mpr (.solution rfl), (calls 1).2.2,
    (calls 2).2.1 (by decide), (calls 2).2.2⟩

end Hooks

end QueryAlgebra
