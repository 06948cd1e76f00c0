/-
**The calls of a dispatcher.**

A dispatcher calls hooks and a store, all of which may read and change a state; what it gives is put
together from what they give (`execute_outcome`). To tell which calls it makes, hooks and store are
replaced by ones that also write down each call behind those before it (`observed`). A store that
takes no queries is not called, a pattern is one call, and a node is executed between the hooks, the
second of which is called only after a success (`dispatch_protocol`).
-/
import QueryAlgebra.Query.Dispatch

namespace QueryAlgebra

/-! ### Answers with the states that they leave -/

/-- The answer from a state, with the state that is left. -/
def QueryM.outcome {σ α : Type} (answer : QueryM σ α) (state : σ) : Except EvalError α × σ :=
  answer.run.run state

namespace QueryM

variable {σ α β : Type}

theorem outcome_bind (first : QueryM σ α) (next : α → QueryM σ β) (state : σ) :
    (first >>= next : QueryM σ β).outcome state =
      match first.outcome state with
      | (.ok value, left) => (next value).outcome left
      | (.error error, left) => (.error error, left) := by
  rw [outcome, ExceptT.run_bind, StateT.run_bind]
  unfold outcome
  show (match first.run.run state with | (result, left) => _) = _
  rcases first.run.run state with ⟨_ | _, _⟩ <;> rfl

theorem outcome_map (change : α → β) (answer : QueryM σ α) (state : σ) :
    (change <$> answer : QueryM σ β).outcome state =
      ((answer.outcome state).1.map change, (answer.outcome state).2) := by
  rw [map_eq_pure_bind, outcome_bind]
  rcases answer.outcome state with ⟨_ | _, _⟩ <;> rfl

end QueryM

/-! ### A node between the hooks -/

namespace Hooks

variable {σ : Type}

/-- The state after a hook, if there is one. -/
def stateAfter (hook : Option (Node σ → StateM σ Unit)) (node : Node σ) (state : σ) : σ :=
  match hook with
  | some action => ((action node).run state).2
  | none => state

theorem outcome_run (hook : Option (Node σ → StateM σ Unit)) (node : Node σ) (state : σ) :
    (run hook node).outcome state = (.ok (), stateAfter hook node state) := by
  cases hook <;> rfl

/-- **A node is executed after the first hook and before the second**, which is left out where the
execution fails. -/
theorem execute_outcome (hooks : Hooks σ) (store : Store σ) (options : Options) (node : Node σ)
    (state : σ) :
    (hooks.execute store options node).outcome state =
      match (store.execute node (store.arity.optionsFor options)).outcome
          (stateAfter hooks.before node state) with
      | (.ok result, left) =>
        (QueryOutput.ofResult node.shape result, stateAfter hooks.after node left)
      | (.error error, left) => (.error error, left) := by
  rw [execute, QueryM.outcome_bind, outcome_run]
  simp only
  rw [QueryM.outcome_bind]
  rcases (store.execute node (store.arity.optionsFor options)).outcome
    (stateAfter hooks.before node state) with ⟨_ | result, left⟩
  · rfl
  · simp only
    rw [QueryM.outcome_bind, outcome_run]
    rfl

end Hooks

/-! ### Calls that are written down -/

/-- A call that a dispatcher makes. Nodes are known by names. -/
inductive DispatchCall (ν : Type)
  /-- A pattern is matched. -/
  | matching (pattern : Pattern) (options : Options)
  /-- A node is executed, with options if they are handed over. -/
  | executing (node : ν) (options : Option Options)
  /-- The hook before a node is called. -/
  | before (node : ν)
  /-- The hook after a node is called. -/
  | after (node : ν)

/-- A state with the calls so far. -/
abbrev Watched (σ ν : Type) := σ × List (DispatchCall ν)

section Observed

variable {σ ν α : Type}

/-- A computation that is written down as one call, whatever it does to the list of calls itself. -/
def DispatchCall.observing (call : DispatchCall ν) (computation : StateM (Watched σ ν) α) :
    StateM (Watched σ ν) α := do
  let (_, calls) ← get
  let result ← computation
  modify fun (state, _) => (state, calls ++ [call])
  return result

/-- A hook whose calls are written down. -/
def Hooks.observedHook (call : ν → DispatchCall ν) (name : Node (Watched σ ν) → ν)
    (hook : Option (Node (Watched σ ν) → StateM (Watched σ ν) Unit)) :
    Option (Node (Watched σ ν) → StateM (Watched σ ν) Unit) :=
  hook.map fun action node => (call (name node)).observing (action node)

/-- Hooks whose calls are written down. -/
def Hooks.observed (hooks : Hooks (Watched σ ν)) (name : Node (Watched σ ν) → ν) :
    Hooks (Watched σ ν) where
  before := observedHook .before name hooks.before
  after := observedHook .after name hooks.after

/-- A store whose calls are written down. -/
def Store.observed (store : Store (Watched σ ν)) (name : Node (Watched σ ν) → ν) :
    Store (Watched σ ν) where
  isQueryable := store.isQueryable
  arity := store.arity
  matchPattern := fun pattern options =>
    .mk ((DispatchCall.matching pattern options).observing (store.matchPattern pattern options).run)
  execute := fun node options =>
    .mk ((DispatchCall.executing (name node) options).observing (store.execute node options).run)

/-- The call of a hook, if there is one. -/
def Hooks.callOf (call : ν → DispatchCall ν) (node : ν)
    (hook : Option (Node (Watched σ ν) → StateM (Watched σ ν) Unit)) : List (DispatchCall ν) :=
  if hook.isSome then [call node] else []

/-- The calls when a node is executed with success or without. -/
def Hooks.callsOf (hooks : Hooks (Watched σ ν)) (node : ν) (handed : Option Options)
    (succeeds : Bool) : List (DispatchCall ν) :=
  callOf .before node hooks.before ++ .executing node handed ::
    if succeeds then callOf .after node hooks.after else []

variable {name : Node (Watched σ ν) → ν}

theorem Hooks.stateAfter_observedHook (call : ν → DispatchCall ν)
    (hook : Option (Node (Watched σ ν) → StateM (Watched σ ν) Unit)) (node : Node (Watched σ ν))
    (start : Watched σ ν) :
    stateAfter (observedHook call name hook) node start =
      ((stateAfter hook node start).1, start.2 ++ callOf call (name node) hook) := by
  cases hook with
  | none => exact Prod.ext rfl (List.append_nil _).symm
  | some action => rfl

theorem Store.observed_matchPattern (store : Store (Watched σ ν)) (pattern : Pattern)
    (options : Options) (start : Watched σ ν) :
    ((store.observed name).matchPattern pattern options).outcome start =
      (((store.matchPattern pattern options).outcome start).1,
        (((store.matchPattern pattern options).outcome start).2.1,
          start.2 ++ [.matching pattern options])) := rfl

theorem Store.observed_execute (store : Store (Watched σ ν)) (node : Node (Watched σ ν))
    (handed : Option Options) (start : Watched σ ν) :
    ((store.observed name).execute node handed).outcome start =
      (((store.execute node handed).outcome start).1,
        (((store.execute node handed).outcome start).2.1,
          start.2 ++ [.executing (name node) handed])) := rfl

end Observed

/-! ### The protocol -/

/-- The options are handed over to a store that wants them, and to no other. -/
theorem ExecuteArity.optionsFor_eq (arity : ExecuteArity) (options : Options) :
    arity.optionsFor options = if arity = .nodeWithOptions then some options else none := by
  cases arity <;> rfl

namespace Hooks

section Protocol

variable {σ ν : Type} (hooks : Hooks (Watched σ ν)) (store : Store (Watched σ ν))
  (options : Options) (name : Node (Watched σ ν) → ν) (start : Watched σ ν)

/-- What a dispatcher gives and leaves when its calls are written down. -/
def watch (query : Query (Watched σ ν)) : Except EvalError QueryOutput × Watched σ ν :=
  ((hooks.observed name).dispatch (store.observed name) options query).outcome start

/-- What a store gives when a dispatcher has it execute a node. -/
def answerTo (node : Node (Watched σ ν)) : Except EvalError QueryResult :=
  ((store.execute node (store.arity.optionsFor options)).outcome
    (stateAfter (hooks.observed name).before node start)).1

theorem watch_of_not_queryable (refuses : store.isQueryable = false)
    (query : Query (Watched σ ν)) :
    hooks.watch store options name start query = (.error .notQueryable, start) := by
  unfold watch dispatch
  rw [show (store.observed name).isQueryable = false from refuses]
  rfl

theorem watch_pattern (queryable : store.isQueryable = true) (pattern : Pattern) :
    hooks.watch store options name start (.pattern pattern) =
      (((store.matchPattern pattern options).outcome start).1.map .solutions,
        (((store.matchPattern pattern options).outcome start).2.1,
          start.2 ++ [.matching pattern options])) := by
  unfold watch dispatch
  rw [if_pos (show (store.observed name).isQueryable = true from queryable)]
  show (QueryOutput.solutions <$> (store.observed name).matchPattern pattern options).outcome _ = _
  rw [QueryM.outcome_map, Store.observed_matchPattern]

theorem watch_node (queryable : store.isQueryable = true) (node : Node (Watched σ ν)) :
    (hooks.watch store options name start (.node node)).1 =
        hooks.answerTo store options name start node >>= QueryOutput.ofResult node.shape ∧
      (hooks.watch store options name start (.node node)).2.2 =
        start.2 ++ hooks.callsOf (name node) (store.arity.optionsFor options)
          (hooks.answerTo store options name start node).isOk := by
  have sameArity : (store.observed name).arity = store.arity := rfl
  have calledBefore : (stateAfter (hooks.observed name).before node start).2 =
      start.2 ++ callOf .before (name node) hooks.before :=
    congrArg Prod.snd (stateAfter_observedHook .before hooks.before node start)
  have calledAfter (left : Watched σ ν) : (stateAfter (hooks.observed name).after node left).2 =
      left.2 ++ callOf .after (name node) hooks.after :=
    congrArg Prod.snd (stateAfter_observedHook .after hooks.after node left)
  unfold watch dispatch answerTo callsOf
  rw [if_pos (show (store.observed name).isQueryable = true from queryable)]
  simp only [execute_outcome, Store.observed_execute, sameArity, calledBefore]
  rcases (store.execute node (store.arity.optionsFor options)).outcome
    (stateAfter (hooks.observed name).before node start) with ⟨error | result, left⟩
  · refine ⟨rfl, ?_⟩
    show start.2 ++ _ ++ [_] = start.2 ++ (_ ++ [_])
    rw [List.append_assoc]
  · refine ⟨rfl, ?_⟩
    show (stateAfter (hooks.observed name).after node _).2 = start.2 ++ (_ ++ ([_] ++ _))
    rw [calledAfter, List.append_assoc, List.append_assoc]
    rfl

/-- **The calls of a dispatcher are these and no others.** A store that takes no queries is not called
and nothing changes. A pattern is matched once, with the options. A node is executed once, after the
first hook and, where it succeeds, before the second, even if its result has the wrong shape then; it
is handed the options if the store wants them. Errors of the store stay as they are. A store that does
not say otherwise runs an operator with these options or, where it wants none, with the default ones,
and has no answer to a compound, so that the second hook is not called. -/
theorem dispatch_protocol (source : PatternSource (Watched σ ν)) :
    (store.isQueryable = false → ∀ query,
      hooks.watch store options name start query = (.error .notQueryable, start)) ∧
    (store.isQueryable = true →
      (∀ pattern,
        (hooks.watch store options name start (.pattern pattern)).1 =
            ((store.matchPattern pattern options).outcome start).1.map .solutions ∧
          (hooks.watch store options name start (.pattern pattern)).2.2 =
            start.2 ++ [.matching pattern options]) ∧
      ∀ node, ∃ handed answer,
        handed = (if store.arity = .nodeWithOptions then some options else none) ∧
        answer = ((store.execute node handed).outcome
          (stateAfter (hooks.observed name).before node start)).1 ∧
        (hooks.watch store options name start (.node node)).1 =
          answer >>= QueryOutput.ofResult node.shape ∧
        (hooks.watch store options name start (.node node)).2.2 =
          start.2 ++ hooks.callsOf (name node) handed answer.isOk) ∧
    (source.isQueryable = true →
      (∀ custom : Operator (Watched σ ν),
        (hooks.watch { toPatternSource := source } options name start (.node (.operator custom))).1 =
          ((custom.execute source
            (if source.arity = .nodeWithOptions then options else .default)).outcome
              (stateAfter (hooks.observed name).before (.operator custom) start)).1 >>=
            QueryOutput.ofResult custom.shape) ∧
      ∀ tag args aggregate,
        (hooks.watch { toPatternSource := source } options name start
            (.node (.compound tag args aggregate))).1 = .error (.notImplemented tag.sseText) ∧
          (hooks.watch { toPatternSource := source } options name start
            (.node (.compound tag args aggregate))).2.2 =
              start.2 ++ hooks.callsOf (name (.compound tag args aggregate))
                (if source.arity = .nodeWithOptions then some options else none) false) := by
  refine ⟨hooks.watch_of_not_queryable store options name start, fun queryable => ⟨fun pattern => ?_,
    fun node => ⟨store.arity.optionsFor options, hooks.answerTo store options name start node,
      store.arity.optionsFor_eq options, rfl, hooks.watch_node store options name start queryable node⟩⟩,
    fun queryable => ⟨fun custom => ?_, fun tag args aggregate => ?_⟩⟩
  · rw [hooks.watch_pattern store options name start queryable]
    exact ⟨rfl, rfl⟩
  · have given : (source.arity.optionsFor options).getD .default =
        if source.arity = .nodeWithOptions then options else .default := by
      cases source.arity <;> rfl
    rw [(hooks.watch_node { toPatternSource := source } options name start queryable _).1, ← given]
    rfl
  · obtain ⟨result, calls⟩ := hooks.watch_node { toPatternSource := source } options name start
      queryable (.compound tag args aggregate)
    rw [result, calls, ← ExecuteArity.optionsFor_eq]
    exact ⟨rfl, rfl⟩

end Protocol

/-- An operator that gives a truth value in place of solutions has succeeded, so the second hook is
called, and the query fails. -/
theorem dispatch_protocol_mismatch :
    @watch Unit String { before := some fun _ => pure (), after := some fun _ => pure () }
        { matchPattern := fun _ _ => pure [] } {} Node.tag ((), [])
        (.node (.operator { tag := "ask", execute := fun _ _ => pure (.boolean true) })) =
      (.error (.typeMismatch (.notSolutions .boolean)),
        ((), [.before "ask", .executing "ask" (some {}), .after "ask"])) := by
  obtain ⟨_, onQueryable, _⟩ := @dispatch_protocol Unit String
    { before := some fun _ => pure (), after := some fun _ => pure () }
    { matchPattern := fun _ _ => pure [] } {} Node.tag ((), []) { matchPattern := fun _ _ => pure [] }
  obtain ⟨handed, answer, rfl, rfl, result, calls⟩ := (onQueryable rfl).2
    (.operator { tag := "ask", execute := fun _ _ => pure (.boolean true) })
  exact Prod.ext result (Prod.ext rfl calls)

end Hooks

end QueryAlgebra
