import ClaudeAgent.Query

/-!
# Lazy initialisation refines the eager one

The documented use is to call `init_claude_receiver()` first in `run()`; every entry point
also guards itself with `hasattr` and initialises on first use.  On a fresh instance whose run
never calls `init_claude_receiver()` itself, the guards give exactly the eager behaviour:

* `exec_lazyInv` — every state a run of a fresh instance reaches meets `LazyInv`.
* `exec_ensureInit` — a run without init from an initialised receiver ends initialised.
* `lazy_init_refines_eager` — the lazy run and the eager one (`init_claude_receiver()` put in
  front) give the same results, raise at the same call, stop at the same call, and end in the
  same state once the lazy one is initialised.

`lazy_init_diverges` shows that the hypothesis is needed: an explicit init after the first
guarded call starts over.
-/

set_option autoImplicit false

namespace ClaudeAgent

namespace ClaudeMessageReceiver

variable {Msg H : Type}

/-- Every state a run reaches from a state of a fresh instance meets `LazyInv`. -/
theorem exec_lazyInv {s t : ClaudeMessageReceiver Msg H} {ops : List (Op Msg)}
    {outs : List (Out Msg)} (hs : LazyInv s) (h : s.exec ops = some (.ok (t, outs))) :
    LazyInv t := by
  have hrun := exec_eq_ok h
  clear h
  induction hrun with
  | nil => exact hs
  | cons _ hst _ ih => exact ih (step_lazyInv hs hst).2

/-- On a state of a fresh instance the query does not change what initialising gives. -/
theorem ensureInit_getToolRegistry {t : ClaudeMessageReceiver Msg H} (ht : LazyInv t) :
    t.getToolRegistry.2.ensureInit = t.ensureInit := by
  cases hi : t.initialised
  · rw [ensureInit, ensureInit, if_neg (by simp [hi]), if_neg (by simp [hi]),
      initClaudeReceiver_getToolRegistry]
  · rw [getToolRegistry_of_has (ht.registry hi)]

/-- Steps other than `init_claude_receiver()` keep a receiver initialised, so initialising
the final state of their run changes nothing. -/
theorem exec_ensureInit {t : ClaudeMessageReceiver Msg H} (hi : t.initialised = true)
    {ops : List (Op Msg)} (hops : Op.initClaudeReceiver ∉ ops) :
    (t.exec ops).map (Except.map fun r => (r.1.ensureInit, r.2)) = t.exec ops := by
  induction ops generalizing t with
  | nil => simp [exec, Except.map, hi]
  | cons op ops ih =>
    rw [List.mem_cons, not_or] at hops
    simp only [exec]
    cases h : t.step op with
    | none => rfl
    | some r =>
      rcases r with e | ⟨t', o⟩
      · rfl
      · dsimp only
        rw [map_exec_cons _ o ensureInit (fun l => l) (fun l => l) fun _ => rfl,
          ih (step_buffers hi (Ne.symm hops.1) h).1 hops.2]

/-- The fresh receiver runs like the initialised one, up to initialising the final state. -/
theorem exec_fresh (inst : Instance H) (table : RegistryTable H) (ops : List (Op Msg))
    (hops : Op.initClaudeReceiver ∉ ops) :
    ((new inst table : ClaudeMessageReceiver Msg H).exec ops).map
        (Except.map fun r => (r.1.ensureInit, r.2)) =
      (new inst table : ClaudeMessageReceiver Msg H).initClaudeReceiver.exec ops := by
  set s : ClaudeMessageReceiver Msg H := new inst table
  have hi : s.initialised = false := rfl
  induction ops with
  | nil => simp [exec, Except.map, ensureInit, hi]
  | cons op ops ih =>
    rw [List.mem_cons, not_or] at hops
    by_cases hg : op.Guarded
    -- the first guarded call initialises; from there the two runs are the same run
    · rw [exec, exec, ← step_of_fresh s hg hi]
      cases h : s.step op with
      | none => rfl
      | some r =>
        rcases r with e | ⟨t', o⟩
        · rfl
        · have hi' : t'.initialised = true := (step_buffers rfl (Ne.symm hops.1)
            ((step_of_fresh s hg hi) ▸ h)).1
          dsimp only
          rw [map_exec_cons _ o ensureInit (fun l => l) (fun l => l) fun _ => rfl,
            exec_ensureInit hi' hops.2]
    cases op with
    | initClaudeReceiver => exact absurd rfl hops.1
    | getRegisteredTools =>
      -- the lazy query scans as the eager init did, and later calls do not see it
      have hkeys : s.getToolRegistry.1 = s.initClaudeReceiver.getToolRegistry.1 := by
        simp [getToolRegistry_of_has, getToolRegistry, s, new, registerToolHandlers_snd_self]
      simp only [exec, step, getRegisteredTools, hkeys, exec_query (LazyInv.fresh inst table),
        getToolRegistry_of_has (show s.initClaudeReceiver.hasToolRegistry = true from rfl)]
      rw [← ih hops.2]
      cases h : s.exec ops with
      | none => rfl
      | some r =>
        rcases r with e | ⟨t, outs⟩
        · rfl
        · simp [-getToolRegistry_snd_eq, Except.map,
            ensureInit_getToolRegistry (exec_lazyInv (LazyInv.fresh inst table) h)]
    | timeout i | handlerReturns i _ | resume i => rfl
    | _ => exact absurd trivial hg

/-- **Lazy initialisation refines the eager one.**  For every fresh instance and every run
that does not call `init_claude_receiver()`, running it as it is, with the `hasattr` guards
initialising on first use, gives what the same run gives after an explicit
`init_claude_receiver()`: the same result for every call (the init's own result dropped), a
`KeyError` from the same call, the same call found not enabled, and the same final state once
the lazy one is initialised. -/
theorem lazy_init_refines_eager (inst : Instance H) (table : RegistryTable H)
    (ops : List (Op Msg)) (hops : Op.initClaudeReceiver ∉ ops) :
    ((new inst table : ClaudeMessageReceiver Msg H).exec ops).map
        (Except.map fun r => (r.1.ensureInit, r.2)) =
      ((new inst table : ClaudeMessageReceiver Msg H).exec (.initClaudeReceiver :: ops)).map
        (Except.map fun r => (r.1, r.2.tail)) := by
  rw [exec_fresh inst table ops hops]
  simp only [exec, step]
  rcases (new inst table : ClaudeMessageReceiver Msg H).initClaudeReceiver.exec ops with
    _ | _ | ⟨t, outs⟩ <;> rfl

/-- Delivering a message, requesting `Bash` for `t1`, completing the dispatch and collecting
the result and the message, with no explicit init, is the eager run of the same calls. -/
theorem lazy_init_refines_eager_bash :
    let inst : Instance Unit :=
      ⟨0, [some (claudeTool "Bash" .workflow ⟨(), true, .missing, .missing⟩)]⟩
    let ops : List (Op String) :=
      [.receiveClaudeMessage "m", .requestToolExecution ⟨"t1", "Bash"⟩,
        .handlerReturns 0 (.ok (.str "a")), .getToolResult "t1", .getClaudeMessages]
    Op.initClaudeReceiver ∉ ops ∧
      ((new inst (fun _ => none) : ClaudeMessageReceiver String Unit).exec ops).map
          (Except.map fun r => (r.1.ensureInit, r.2)) =
        ((new inst (fun _ => none) : ClaudeMessageReceiver String Unit).exec
          (.initClaudeReceiver :: ops)).map (Except.map fun r => (r.1, r.2.tail)) := by
  intro inst ops
  exact ⟨by simp [ops], lazy_init_refines_eager inst _ ops (by simp [ops])⟩

end ClaudeMessageReceiver

end ClaudeAgent
