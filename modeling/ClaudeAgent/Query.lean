import ClaudeAgent.Buffers
import ClaudeAgent.LazyInit

/-!
# The `get_registered_tools` query

`get_registered_tools()` returns the keys of `get_tool_registry()`.  After
`init_claude_receiver()` that registry is set and the query changes nothing; before it, the
query sets `_tool_registry` and fills the instance's entry of the registry table by
`register_tool_handlers`, and a later `init_claude_receiver()` scans the same instance again.

* `LazyInv` — what every state reached from a fresh instance satisfies: before
  `init_claude_receiver()` no call is suspended, and after it `_tool_registry` is set.
* `step_query` — one step after the query gives what it gives without it, in the state the
  query would leave; `exec_query` — so does every run.
* `get_registered_tools_no_effect` — inserting the query anywhere in any run of a fresh
  instance changes no later result, and the final states differ at most by what the query
  itself does.
-/

set_option autoImplicit false

namespace ClaudeAgent

namespace ClaudeMessageReceiver

variable {Msg H : Type}

/-! ## `get_tool_registry` -/

theorem getToolRegistry_of_has {s : ClaudeMessageReceiver Msg H} (h : s.hasToolRegistry = true) :
    s.getToolRegistry = ((s.toolRegistries s.inst.id).getD .empty, s) := by
  simp [getToolRegistry, h]

/-- A second `get_tool_registry()` returns the same registry and changes nothing. -/
theorem getToolRegistry_getToolRegistry (s : ClaudeMessageReceiver Msg H) :
    s.getToolRegistry.2.getToolRegistry = s.getToolRegistry := by
  rw [getToolRegistry_of_has (by simp)]
  cases h : s.hasToolRegistry
  · simp [getToolRegistry, h, registerToolHandlers_snd_self]
  · simp [getToolRegistry, h]

/-- `init_claude_receiver()` after the query is `init_claude_receiver()` alone: it scans the
instance again, which changes nothing. -/
theorem initClaudeReceiver_getToolRegistry (s : ClaudeMessageReceiver Msg H) :
    s.getToolRegistry.2.initClaudeReceiver = s.initClaudeReceiver := by
  cases h : s.hasToolRegistry <;> simp [initClaudeReceiver, h, registerToolHandlers_idem]

/-! ## The states of a fresh instance -/

/-- Before `init_claude_receiver()` no call is suspended; after it `_tool_registry` is set. -/
structure LazyInv (s : ClaudeMessageReceiver Msg H) : Prop where
  tasks : s.initialised = false → s.tasks = []
  registry : s.initialised = true → s.hasToolRegistry = true

theorem LazyInv.fresh (inst : Instance H) (table : RegistryTable H) :
    LazyInv (ClaudeMessageReceiver.new inst table : ClaudeMessageReceiver Msg H) :=
  ⟨fun _ => rfl, fun h => nomatch h⟩

theorem LazyInv.init (s : ClaudeMessageReceiver Msg H) : LazyInv s.initClaudeReceiver :=
  ⟨fun h => by simp at h, fun _ => rfl⟩

/-- An initialised receiver with its registry set stays so. -/
theorem step_initialised_registry {s s' : ClaudeMessageReceiver Msg H} {op : Op Msg}
    {o : Out Msg} (hi : s.initialised = true) (hh : s.hasToolRegistry = true)
    (h : s.step op = some (.ok (s', o))) : s'.initialised = true ∧ s'.hasToolRegistry = true := by
  by_cases hop : op = .initClaudeReceiver
  · subst hop
    simp only [step, Option.some.injEq, Except.ok.injEq, Prod.mk.injEq] at h
    rw [← h.1]
    exact ⟨rfl, rfl⟩
  · refine ⟨(step_buffers hi hop h).1, ?_⟩
    cases step_spec hi hop h <;> simp [finish, popToolResult, hh]

/-- From a state of a fresh instance every step leaves `_tool_registry` set, and a receiver
that is still not initialised has no suspended call. -/
theorem step_lazyInv {s s' : ClaudeMessageReceiver Msg H} {op : Op Msg} {o : Out Msg}
    (hs : LazyInv s) (h : s.step op = some (.ok (s', o))) :
    s'.hasToolRegistry = true ∧ LazyInv s' := by
  -- an initialised result meets `LazyInv` at once
  have hdone : s'.initialised = true ∧ s'.hasToolRegistry = true →
      s'.hasToolRegistry = true ∧ LazyInv s' := fun ⟨h₁, h₂⟩ =>
    ⟨h₂, fun h' => by simp [h₁] at h', fun _ => h₂⟩
  cases hi : s.initialised
  · have ht := hs.tasks hi
    rcases step_of_uninitialised hi ht h with ⟨-, h⟩ | ⟨-, rfl, -⟩ | ⟨-, rfl, -⟩
    · exact hdone (step_initialised_registry rfl rfl h)
    · exact hdone ⟨rfl, rfl⟩
    · exact ⟨by simp, fun _ => by simp [ht], fun h' => by simp [hi] at h'⟩
  · exact hdone (step_initialised_registry hi (hs.registry hi) h)

/-! ## The query commutes with every step -/

/-- **One step after the query.**  From a state of a fresh instance, every step after
`get_registered_tools()` gives what it gives without it, and leaves the state it leaves
without it as the query would leave it. -/
theorem step_query {s : ClaudeMessageReceiver Msg H} (hs : LazyInv s) (op : Op Msg) :
    s.getToolRegistry.2.step op = (s.step op).map (Except.map (Prod.map (·.getToolRegistry.2) id)) := by
  -- once `_tool_registry` is set the query changes nothing
  have hset : ∀ t : ClaudeMessageReceiver Msg H, LazyInv t →
      (t.step op).map (Except.map (Prod.map (·.getToolRegistry.2) id)) = t.step op := by
    intro t ht
    cases h : t.step op with
    | none => rfl
    | some r =>
      rcases r with e | ⟨t', o⟩
      · rfl
      · simp [-getToolRegistry_snd_eq, Except.map, getToolRegistry_of_has (step_lazyInv ht h).1]
  by_cases hh : s.hasToolRegistry = true
  · rw [hset s hs, getToolRegistry_of_has hh]
  · have hi : s.initialised = false := by
      cases h : s.initialised
      · rfl
      · exact absurd (hs.registry h) hh
    have ht := hs.tasks hi
    by_cases hg : op.Guarded
    · rw [step_of_fresh _ hg (by simpa using hi), step_of_fresh _ hg hi,
        initClaudeReceiver_getToolRegistry, hset _ (LazyInv.init s)]
    cases op with
    | initClaudeReceiver =>
      simp [-getToolRegistry_snd_eq, step, Except.map, initClaudeReceiver_getToolRegistry,
        getToolRegistry_of_has]
    | getRegisteredTools =>
      simp [-getToolRegistry_snd_eq, step, getRegisteredTools, Except.map,
        getToolRegistry_getToolRegistry]
    | timeout i | handlerReturns i _ | resume i => simp [step, ht]
    | _ => exact absurd trivial hg

/-- Every run after the query gives what it gives without it. -/
theorem exec_query {s : ClaudeMessageReceiver Msg H} (hs : LazyInv s) (ops : List (Op Msg)) :
    s.getToolRegistry.2.exec ops = (s.exec ops).map (Except.map (Prod.map (·.getToolRegistry.2) id)) := by
  induction ops generalizing s with
  | nil => rfl
  | cons op ops ih =>
    simp only [exec, step_query hs op]
    cases h : s.step op with
    | none => rfl
    | some r =>
      rcases r with e | ⟨s', o⟩
      · rfl
      · simp only [Option.map_some', Except.map, Prod.map, id, ih (step_lazyInv hs h).2]
        cases s'.exec ops with
        | none => rfl
        | some r' => rcases r' with e | ⟨t, outs⟩ <;> rfl

end ClaudeMessageReceiver

open ClaudeMessageReceiver

variable {Msg H : Type}

/-- A step's output goes in front of the outputs of the run after it, past any map that acts
on the final state and on the outputs after it alone. -/
theorem map_exec_cons (x : Option (Except KeyError (ClaudeMessageReceiver Msg H × List (Out Msg))))
    (o : Out Msg) (f : ClaudeMessageReceiver Msg H → ClaudeMessageReceiver Msg H)
    (g g' : List (Out Msg) → List (Out Msg)) (hg : ∀ l, g (o :: l) = o :: g' l) :
    (x.map (·.map fun r => (r.1, o :: r.2))).map (Except.map fun r => (f r.1, g r.2)) =
      (x.map (Except.map fun r => (f r.1, g' r.2))).map (·.map fun r => (r.1, o :: r.2)) := by
  rcases x with _ | _ | ⟨t, outs⟩ <;> simp [Except.map, hg]

/-- **The query has no observable effect.**  For every fresh instance, every run and every
position in it, inserting `get_registered_tools()` there changes the result of no later call,
later queries included: dropping the query's own result, the two runs give the same results,
and their final states agree once the query's effect (setting `_tool_registry`, which every
later initialisation does anyway) is applied to both. -/
theorem get_registered_tools_no_effect (inst : Instance H) (table : RegistryTable H)
    (ops₁ ops₂ : List (Op Msg)) :
    ((new inst table).exec (ops₁ ++ .getRegisteredTools :: ops₂)).map
        (Except.map fun r => (r.1.getToolRegistry.2, r.2.eraseIdx ops₁.length)) =
      ((new inst table).exec (ops₁ ++ ops₂)).map
        (Except.map fun r => (r.1.getToolRegistry.2, r.2)) := by
  suffices ∀ s : ClaudeMessageReceiver Msg H, LazyInv s →
      (s.exec (ops₁ ++ .getRegisteredTools :: ops₂)).map
        (Except.map fun r => (r.1.getToolRegistry.2, r.2.eraseIdx ops₁.length)) =
      (s.exec (ops₁ ++ ops₂)).map (Except.map fun r => (r.1.getToolRegistry.2, r.2)) from
    this _ (LazyInv.fresh inst table)
  induction ops₁ with
  | nil =>
    intro s hs
    simp only [List.nil_append, exec, step, getRegisteredTools, exec_query hs ops₂]
    cases s.exec ops₂ with
    | none => rfl
    | some r =>
      rcases r with e | ⟨t, outs⟩
      · rfl
      · simp [Except.map, getToolRegistry_getToolRegistry]
  | cons op ops₁ ih =>
    intro s hs
    rw [List.cons_append, List.cons_append, exec, exec, List.length_cons]
    cases h : s.step op with
    | none => rfl
    | some r =>
      rcases r with e | ⟨s', o⟩
      · rfl
      · dsimp only
        rw [map_exec_cons _ o (·.getToolRegistry.2) (fun l => l.eraseIdx (ops₁.length + 1))
            (fun l => l.eraseIdx ops₁.length) fun _ => rfl,
          map_exec_cons _ o (·.getToolRegistry.2) (fun l => l) (fun l => l) fun _ => rfl,
          ih s' (step_lazyInv hs h).2]

end ClaudeAgent
