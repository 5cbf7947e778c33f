import ClaudeAgent.Receiver

/-!
# What each step does

Small lemmas over the primitives of `ClaudeAgent.Receiver` — the flag of an event after
`setEvent`, `clearEvent` or the creation of a new one, the task list after `spawn`, `finish`
or a wake — and one inversion lemma for each method that can raise (`storeToolResult`,
`requestToolExecution`).  The modules after this one cite these lemmas and do not unfold the
primitives.
-/

set_option autoImplicit false

namespace ClaudeAgent

theorem getD_append_false (l : List Bool) (e : Nat) : (l ++ [false]).getD e false = l.getD e false := by
  simp only [List.getD_eq_getElem?_getD, List.getElem?_append]
  split
  · rfl
  · rename_i h
    rw [List.getElem?_eq_none (Nat.not_lt.1 h)]
    cases h' : e - l.length <;> simp

namespace Task

variable {H : Type}

theorem wake_eq_wait {e e' : Nat} {timed w' : Bool} {t : Task H}
    (h : t.wake e = .waitForClaudeMessages e' timed w') :
    ∃ w, t = .waitForClaudeMessages e' timed w ∧ w' = (w || e' == e) := by
  cases t <;> simp only [wake, reduceCtorEq, Task.waitForClaudeMessages.injEq] at h
  obtain ⟨rfl, rfl, rfl⟩ := h
  exact ⟨_, rfl, rfl⟩

theorem wake_eq_getToolResult {e e' : Nat} {toolId : String} {w' : Bool} {t : Task H}
    (h : t.wake e = .getToolResult toolId e' w') :
    ∃ w, t = .getToolResult toolId e' w ∧ w' = (w || e' == e) := by
  cases t <;> simp only [wake, reduceCtorEq, Task.getToolResult.injEq] at h
  obtain ⟨rfl, rfl, rfl⟩ := h
  exact ⟨_, rfl, rfl⟩

theorem wake_eq_requestToolExecution {e : Nat} {req : ToolRequest} {handler : ToolHandler H}
    {t : Task H} (h : t.wake e = .requestToolExecution req handler) :
    t = .requestToolExecution req handler := by
  cases t <;> simp_all [wake]

end Task

/-- The suspended call a step of the scheduler completes or wakes. -/
def Op.task {Msg : Type} : Op Msg → Option Nat
  | .timeout i | .handlerReturns i _ | .resume i => some i
  | _ => none

namespace ClaudeMessageReceiver

variable {Msg H : Type} (s : ClaudeMessageReceiver Msg H)

@[simp] theorem ensureInit_of_initialised (h : s.initialised = true) : s.ensureInit = s := by
  simp [ensureInit, h]

/-! ## Event flags -/

/-- `isSet` reads the flags alone: a record that keeps them, or only adds a new clear event,
answers as before. -/
@[simp] theorem isSet_mk_events (inst : Instance H) (initialised : Bool) (msgs : List Msg)
    (out : List String) (ev : Nat) (results : String → Option ToolResult)
    (rendezvous : String → Option Nat) (has : Bool) (table : RegistryTable H)
    (tasks : List (Task H)) (e : Nat) :
    (ClaudeMessageReceiver.mk inst initialised msgs out ev results rendezvous has table s.events
      tasks).isSet e = s.isSet e := rfl

@[simp] theorem isSet_mk_append (inst : Instance H) (initialised : Bool) (msgs : List Msg)
    (out : List String) (ev : Nat) (results : String → Option ToolResult)
    (rendezvous : String → Option Nat) (has : Bool) (table : RegistryTable H)
    (tasks : List (Task H)) (e : Nat) :
    (ClaudeMessageReceiver.mk inst initialised msgs out ev results rendezvous has table
      (s.events ++ [false]) tasks).isSet e = s.isSet e :=
  getD_append_false _ _

@[simp] theorem isSet_setEvent (e e' : Nat) :
    (s.setEvent e').isSet e = (s.isSet e || decide (e = e' ∧ e' < s.events.length)) := by
  unfold setEvent isSet
  by_cases he : e = e'
  · subst he
    by_cases hl : e < s.events.length
    · simp [List.getElem?_set, hl]
    · simp [List.getElem?_set, hl, List.getElem?_eq_none (Nat.not_lt.1 hl)]
  · simp [List.getElem?_set, Ne.symm he, he]

@[simp] theorem isSet_clearEvent (e e' : Nat) :
    (s.clearEvent e').isSet e = (s.isSet e && !decide (e = e')) := by
  unfold clearEvent isSet
  by_cases he : e = e'
  · subst he; simp [List.getElem?_set]; split <;> simp
  · simp [List.getElem?_set, Ne.symm he, he]

/-- No event numbered past the last one created is set. -/
theorem isSet_of_le {e : Nat} (h : s.events.length ≤ e) : s.isSet e = false := by
  simp [isSet, List.getElem?_eq_none h]

/-! ## Tasks -/


/-- A waiter after `event.set()` was a waiter before, woken now if it waits on that event and
the event was clear. -/
theorem getElem?_tasks_setEvent_wait {e j e' : Nat}
    {timed w' : Bool} (h : (s.setEvent e).tasks[j]? = some (.waitForClaudeMessages e' timed w')) :
    ∃ w, s.tasks[j]? = some (.waitForClaudeMessages e' timed w) ∧
      w' = (w || (e' == e && !s.isSet e)) := by
  simp only [setEvent_tasks] at h
  split at h
  · exact ⟨w', h, by simp_all⟩
  · rw [List.getElem?_map] at h
    obtain ⟨t, ht, hwake⟩ := Option.map_eq_some'.1 h
    obtain ⟨w, rfl, rfl⟩ := Task.wake_eq_wait hwake
    exact ⟨w, ht, by simp_all⟩

/-- A task found after one task was appended was there before, or is the new one. -/
theorem getElem?_append_singleton {l : List (Task H)} {t' t : Task H} {j : Nat}
    (h : (l ++ [t'])[j]? = some t) : l[j]? = some t ∨ (j = l.length ∧ t = t') := by
  rw [List.getElem?_append] at h
  split at h
  · exact .inl h
  · rename_i hj
    rcases hk : j - l.length with _ | k <;>
      simp only [hk, List.getElem?_cons_zero, List.getElem?_cons_succ, List.getElem?_nil,
        reduceCtorEq, Option.some.injEq] at h
    exact .inr ⟨by omega, h.symm⟩

/-- A task other than the one appended was there before. -/
theorem getElem?_append_of_ne {l : List (Task H)} {t' t : Task H} {j : Nat}
    (h : (l ++ [t'])[j]? = some t) (ht : t ≠ t') : l[j]? = some t :=
  (getElem?_append_singleton h).resolve_right fun h' => ht h'.2

/-- A task found at `j` stays there when one is appended. -/
theorem getElem?_append_singleton_of_some {l : List (Task H)} {t : Task H} {j : Nat}
    (t' : Task H) (h : l[j]? = some t) : (l ++ [t'])[j]? = some t := by
  rw [List.getElem?_append_left (List.getElem?_eq_some_iff.1 h).1, h]

/-- A task found at `j` stays there when another task, the one found at `i`, is replaced. -/
theorem getElem?_set_of_some {l : List (Task H)} {i j : Nat} {t₀ t t' : Task H}
    (hi : l[i]? = some t₀) (h : l[j]? = some t) (ht : t₀ ≠ t) :
    (l.set i t')[j]? = some t := by
  rw [List.getElem?_set_ne (by rintro rfl; exact ht (Option.some.inj (hi.symm.trans h))), h]

/-- A task found after task `i` was replaced by another one was there before, at another
index. -/
theorem getElem?_set_of_ne {l : List (Task H)} {i j : Nat} {t' t : Task H}
    (h : (l.set i t')[j]? = some t) (ht : t ≠ t') : i ≠ j ∧ l[j]? = some t := by
  rw [List.getElem?_set] at h
  split at h
  · split at h <;> simp_all
  · exact ⟨‹_›, h⟩

/-- A fetch after `event.set()` was a fetch before, woken now if it waits on that event and
the event was clear. -/
theorem getElem?_tasks_setEvent_getToolResult {e j e' : Nat} {x : String} {w' : Bool}
    (h : (s.setEvent e).tasks[j]? = some (.getToolResult x e' w')) :
    ∃ w, s.tasks[j]? = some (.getToolResult x e' w) ∧ w' = (w || (e' == e && !s.isSet e)) := by
  simp only [setEvent_tasks] at h
  split at h
  · exact ⟨w', h, by simp_all⟩
  · rw [List.getElem?_map] at h
    obtain ⟨t, ht, hwake⟩ := Option.map_eq_some'.1 h
    obtain ⟨w, rfl, rfl⟩ := Task.wake_eq_getToolResult hwake
    exact ⟨w, ht, by simp_all⟩

/-- `event.set()` wakes no dispatch. -/
theorem getElem?_tasks_setEvent_requestToolExecution {e j : Nat} {req : ToolRequest}
    {handler : ToolHandler H}
    (h : (s.setEvent e).tasks[j]? = some (.requestToolExecution req handler)) :
    s.tasks[j]? = some (.requestToolExecution req handler) := by
  simp only [setEvent_tasks] at h
  split at h
  · exact h
  · rw [List.getElem?_map] at h
    obtain ⟨t, ht, hwake⟩ := Option.map_eq_some'.1 h
    rwa [← Task.wake_eq_requestToolExecution hwake]

/-! ## The methods -/

/-- `get_tool_registry` only sets `_tool_registry` and fills the table. -/
@[simp] theorem getToolRegistry_snd_eq : s.getToolRegistry.2 = { s with
    hasToolRegistry := true
    toolRegistries := if s.hasToolRegistry then s.toolRegistries
      else (registerToolHandlers s.toolRegistries s.inst).2 } := by
  cases s
  unfold getToolRegistry
  split <;> simp_all


/-- `storeToolResult` succeeds exactly when the id has a rendezvous, and then sets it. -/
theorem storeToolResult_eq_ok {toolId : String} {r : ToolResult} {s' : ClaudeMessageReceiver Msg H}
    (h : s.storeToolResult toolId r = .ok s') :
    ∃ e, s.toolResultEvents toolId = some e ∧
      s' = { s with toolResults := Function.update s.toolResults toolId (some r) }.setEvent e := by
  unfold storeToolResult at h
  split at h
  · rename_i e he
    exact ⟨e, he, (Except.ok.inj h).symm⟩
  · cases h

/-- What a successful `request_tool_execution` does on an initialised receiver: it creates the
rendezvous, reads the registry, and either stores the failure for an unregistered tool and
sets the rendezvous, or suspends on the handler. -/
theorem requestToolExecution_eq_ok {req : ToolRequest} {o : Out Msg}
    {s' : ClaudeMessageReceiver Msg H} (hi : s.initialised = true)
    (h : s.requestToolExecution req = .ok (o, s')) :
    (s.getToolRegistry.1.get req.toolName = none ∧ o = .none ∧
      s' = { s.getToolRegistry.2 with
        events := s.events ++ [false]
        toolResultEvents := Function.update s.toolResultEvents req.toolId (some s.events.length)
        toolResults := Function.update s.toolResults req.toolId (some (noHandlerResult req)) }.setEvent
          s.events.length) ∨
    (∃ handler, s.getToolRegistry.1.get req.toolName = some handler ∧
      o = .suspended s.tasks.length ∧
      s' = { s.getToolRegistry.2 with
        events := s.events ++ [false]
        toolResultEvents := Function.update s.toolResultEvents req.toolId (some s.events.length)
        tasks := s.tasks ++ [.requestToolExecution req handler] }) := by
  have hreg : ({ s with
      events := s.events ++ [false]
      toolResultEvents := Function.update s.toolResultEvents req.toolId (some s.events.length) } :
      ClaudeMessageReceiver Msg H).getToolRegistry.1 = s.getToolRegistry.1 := by
    unfold getToolRegistry; split <;> rfl
  simp only [requestToolExecution, ensureInit_of_initialised s hi, hreg] at h
  split at h
  · rename_i hget
    left
    simp only [storeToolResult, getToolRegistry_snd_eq, Function.update_same, Except.map] at h
    obtain ⟨rfl, rfl⟩ := Prod.mk.inj (Except.ok.inj h)
    exact ⟨hget, rfl, by simp only [getToolRegistry_snd_eq]⟩
  · rename_i handler hget
    right
    simp only [spawn, getToolRegistry_snd_eq, Except.ok.injEq, Prod.mk.injEq] at h
    obtain ⟨rfl, rfl⟩ := h
    exact ⟨handler, hget, rfl, by simp only [getToolRegistry_snd_eq]⟩

theorem step_requestToolExecution {req : ToolRequest} {o : Out Msg}
    {s' : ClaudeMessageReceiver Msg H}
    (h : s.step (.requestToolExecution req) = some (.ok (s', o))) :
    s.requestToolExecution req = .ok (o, s') := by
  simp only [step, Option.some.injEq] at h
  cases hr : s.requestToolExecution req with
  | error e => simp [hr, Except.map] at h
  | ok r => simp only [hr, Except.map, Except.ok.injEq, Prod.mk.injEq] at h; rw [← h.1, ← h.2]

/-- What a successful completion of a suspended handler does: the task returns, the result is
stored and the rendezvous of the id is set. -/
theorem step_handlerReturns_eq_ok {i : Nat} {out : Except HandlerError PyValue} {o : Out Msg}
    {s' : ClaudeMessageReceiver Msg H} (h : s.step (.handlerReturns i out) = some (.ok (s', o))) :
    ∃ req handler e, s.tasks[i]? = some (.requestToolExecution req handler) ∧
      s.toolResultEvents req.toolId = some e ∧ o = .none ∧
      s' = { s.finish i with toolResults := (Function.update s.toolResults req.toolId
        (some (handlerToolResult req.toolId out))) }.setEvent e := by
  simp only [step] at h
  split at h
  · rename_i req handler hi
    cases hr : (s.finish i).storeToolResult req.toolId (handlerToolResult req.toolId out) with
    | error e => simp [hr, Except.map] at h
    | ok s₁ =>
      simp only [hr, Except.map, Option.some.injEq, Except.ok.injEq, Prod.mk.injEq] at h
      obtain ⟨rfl, rfl⟩ := h
      obtain ⟨e, he, rfl⟩ := storeToolResult_eq_ok _ hr
      exact ⟨req, handler, e, hi, he, rfl, rfl⟩
  · cases h

/-- **The completion of a suspended handler**, while its id has its rendezvous: it raises
nothing, stores the classified result under the request's id and nowhere else, and sets the
rendezvous, which wakes every `get_tool_result` waiting on it. -/
theorem step_handlerReturns {j e : Nat} {req : ToolRequest} {handler : ToolHandler H}
    (out : Except HandlerError PyValue) (hj : s.tasks[j]? = some (.requestToolExecution req handler))
    (he : s.toolResultEvents req.toolId = some e) :
    ∃ s', s.step (.handlerReturns j out) = some (.ok (s', .none)) ∧
      s'.toolResults = Function.update s.toolResults req.toolId
        (some (handlerToolResult req.toolId out)) ∧
      ∀ (i : Nat) (x : String), s.tasks[i]? = some (.getToolResult x e false) →
        s.isSet e = false → s'.tasks[i]? = some (.getToolResult x e true) := by
  refine ⟨{ s.finish j with
      toolResults := Function.update s.toolResults req.toolId
        (some (handlerToolResult req.toolId out)) }.setEvent e,
    by simp [step, hj, storeToolResult, finish, he, Except.map], rfl, fun i x hi hclear => ?_⟩
  have hij : j ≠ i := by rintro rfl; rw [hj] at hi; cases hi
  simp [finish, hclear, List.getElem?_set_ne hij, hi, Task.wake]

/-! ## Every step of an initialised receiver -/

/-- What a step other than `init_claude_receiver` does on an initialised receiver: one
constructor for each way a step can succeed, with the state and the output it produces. -/
inductive StepSpec (s : ClaudeMessageReceiver Msg H) :
    Op Msg → ClaudeMessageReceiver Msg H → Out Msg → Prop where
  | receiveClaudeMessage (m : Msg) :
    StepSpec s (.receiveClaudeMessage m)
      ({ s with claudeMessages := s.claudeMessages ++ [m] }.setEvent s.claudeMessageEvent) .none
  | getClaudeMessages :
    StepSpec s .getClaudeMessages s.takeClaudeMessages.2 (.messages s.claudeMessages)
  | waitReady (h : s.isSet s.claudeMessageEvent = true) :
    StepSpec s (.waitForClaudeMessages false) s.takeClaudeMessages.2 (.messages s.claudeMessages)
  | waitSuspend (timed : Bool) (h : timed = true ∨ s.isSet s.claudeMessageEvent = false) :
    StepSpec s (.waitForClaudeMessages timed)
      { s with tasks := s.tasks ++
        [.waitForClaudeMessages s.claudeMessageEvent timed (s.isSet s.claudeMessageEvent)] }
      (.suspended s.tasks.length)
  | getAndConsumeMessages :
    StepSpec s .getAndConsumeMessages { s with claudeOutgoing := [] } (.outgoing s.claudeOutgoing)
  | sendToClaude (m : String) :
    StepSpec s (.sendToClaude m) { s with claudeOutgoing := s.claudeOutgoing ++ [m] } .none
  | requestNoHandler (req : ToolRequest) (h : s.getToolRegistry.1.get req.toolName = none) :
    StepSpec s (.requestToolExecution req)
      ({ s.getToolRegistry.2 with
        events := s.events ++ [false]
        toolResultEvents := Function.update s.toolResultEvents req.toolId (some s.events.length)
        toolResults := Function.update s.toolResults req.toolId (some (noHandlerResult req)) }.setEvent
          s.events.length) .none
  | requestSuspend (req : ToolRequest) (handler : ToolHandler H)
      (h : s.getToolRegistry.1.get req.toolName = some handler) :
    StepSpec s (.requestToolExecution req)
      { s.getToolRegistry.2 with
        events := s.events ++ [false]
        toolResultEvents := Function.update s.toolResultEvents req.toolId (some s.events.length)
        tasks := s.tasks ++ [.requestToolExecution req handler] }
      (.suspended s.tasks.length)
  | getToolResultReady (toolId : String)
      (h : ∀ e, s.toolResultEvents toolId = some e → s.isSet e = true) :
    StepSpec s (.getToolResult toolId) (s.popToolResult toolId).2
      (.toolResult (s.popToolResult toolId).1)
  | getToolResultSuspend (toolId : String) (e : Nat) (h : s.toolResultEvents toolId = some e)
      (hclear : s.isSet e = false) :
    StepSpec s (.getToolResult toolId) { s with tasks := s.tasks ++ [.getToolResult toolId e false] }
      (.suspended s.tasks.length)
  | getRegisteredTools :
    StepSpec s .getRegisteredTools s.getToolRegistry.2 (.toolNames s.getToolRegistry.1.keys)
  | timeout (i e : Nat) (h : s.tasks[i]? = some (.waitForClaudeMessages e true false)) :
    StepSpec s (.timeout i) { s with tasks := s.tasks.set i (.waitForClaudeMessages e true true) } .none
  | handlerReturns (i : Nat) (out : Except HandlerError PyValue) (req : ToolRequest)
      (handler : ToolHandler H) (e : Nat) (h : s.tasks[i]? = some (.requestToolExecution req handler))
      (he : s.toolResultEvents req.toolId = some e) :
    StepSpec s (.handlerReturns i out)
      ({ s.finish i with toolResults := (Function.update s.toolResults req.toolId
        (some (handlerToolResult req.toolId out))) }.setEvent e) .none
  | resumeWait (i e : Nat) (timed : Bool) (h : s.tasks[i]? = some (.waitForClaudeMessages e timed true)) :
    StepSpec s (.resume i) (s.finish i).takeClaudeMessages.2 (.messages s.claudeMessages)
  | resumeToolResult (i : Nat) (toolId : String) (e : Nat)
      (h : s.tasks[i]? = some (.getToolResult toolId e true)) :
    StepSpec s (.resume i) ((s.finish i).popToolResult toolId).2
      (.toolResult ((s.finish i).popToolResult toolId).1)

/-- **Every step of an initialised receiver meets `StepSpec`.** -/
theorem step_spec {s s' : ClaudeMessageReceiver Msg H} {op : Op Msg} {o : Out Msg}
    (hi : s.initialised = true) (hop : op ≠ .initClaudeReceiver)
    (h : s.step op = some (.ok (s', o))) : StepSpec s op s' o := by
  cases op with
  | initClaudeReceiver => exact absurd rfl hop
  | waitForClaudeMessages timed =>
    simp only [step, waitForClaudeMessages, ensureInit_of_initialised _ hi, Option.some.injEq,
      Except.ok.injEq] at h
    split at h <;> obtain ⟨rfl, rfl⟩ := Prod.mk.inj h
    · rename_i hc
      simp only [Bool.and_eq_true, Bool.not_eq_true'] at hc
      obtain ⟨rfl, hset⟩ := hc
      exact .waitReady hset
    · rename_i hc
      exact .waitSuspend timed (by cases timed <;> simp_all)
  | requestToolExecution req =>
    rcases requestToolExecution_eq_ok s hi (step_requestToolExecution s h) with
      ⟨hget, rfl, rfl⟩ | ⟨handler, hget, rfl, rfl⟩
    · exact .requestNoHandler req hget
    · exact .requestSuspend req handler hget
  | getToolResult toolId =>
    simp only [step, getToolResult, ensureInit_of_initialised _ hi, Option.some.injEq,
      Except.ok.injEq] at h
    split at h
    · rename_i e he
      split at h <;> obtain ⟨rfl, rfl⟩ := Prod.mk.inj h
      · exact .getToolResultReady toolId fun e' he' => by simp_all
      · exact .getToolResultSuspend toolId e he (by simp_all)
    · obtain ⟨rfl, rfl⟩ := Prod.mk.inj h
      exact .getToolResultReady toolId fun e' he' => by simp_all
  | timeout i =>
    simp only [step] at h
    split at h
    · obtain ⟨rfl, rfl⟩ := Prod.mk.inj (Except.ok.inj (Option.some.inj h))
      exact .timeout i _ ‹_›
    · cases h
  | handlerReturns i out =>
    obtain ⟨req, handler, e, ht, he, rfl, rfl⟩ := step_handlerReturns_eq_ok s h
    exact .handlerReturns i out req handler e ht he
  | resume i =>
    simp only [step] at h
    split at h
    · obtain ⟨rfl, rfl⟩ := Prod.mk.inj (Except.ok.inj (Option.some.inj h))
      exact .resumeWait i _ _ ‹_›
    · obtain ⟨rfl, rfl⟩ := Prod.mk.inj (Except.ok.inj (Option.some.inj h))
      exact .resumeToolResult i _ _ ‹_›
    · cases h
  | _ =>
    simp only [step, receiveClaudeMessage, getClaudeMessages, getAndConsumeMessages,
      sendToClaude, getRegisteredTools, ensureInit_of_initialised _ hi, Option.some.injEq,
      Except.ok.injEq, Prod.mk.injEq] at h
    obtain ⟨rfl, rfl⟩ := h
    constructor

/-- A step leaves every call it does not complete in place, at most woken. -/
theorem step_getElem?_tasks {s s' : ClaudeMessageReceiver Msg H} {op : Op Msg} {o : Out Msg}
    {k : Nat} {t : Task H} (hi : s.initialised = true) (h : s.step op = some (.ok (s', o)))
    (hk : op.task ≠ some k) (ht : s.tasks[k]? = some t) :
    s'.tasks[k]? = some t ∨ ∃ e, s'.tasks[k]? = some (t.wake e) := by
  by_cases hop : op = .initClaudeReceiver
  · subst hop
    simp only [step, Option.some.injEq, Except.ok.injEq, Prod.mk.injEq] at h
    exact .inl (h.1 ▸ ht)
  have hwake : ∀ (u : ClaudeMessageReceiver Msg H) (e : Nat), u.tasks[k]? = some t →
      (u.setEvent e).tasks[k]? = some t ∨ ∃ e', (u.setEvent e).tasks[k]? = some (t.wake e') := by
    intro u e hu
    by_cases hs : u.isSet e = true
    · exact .inl (by simpa [hs] using hu)
    · exact .inr ⟨e, by simp [hs, hu]⟩
  have hset : ∀ i t', op.task = some i → (s.tasks.set i t')[k]? = some t := fun i t' hop => by
    rw [List.getElem?_set_ne (by rintro rfl; exact hk hop), ht]
  have happ : ∀ t', (s.tasks ++ [t'])[k]? = some t := fun t' => by
    rw [List.getElem?_append_left (List.getElem?_eq_some_iff.1 ht).1, ht]
  cases step_spec hi hop h with
  | receiveClaudeMessage | requestNoHandler => refine hwake _ _ ?_; simpa using ht
  | handlerReturns i => refine hwake _ _ ?_; exact hset i .done rfl
  | timeout i => exact .inl (hset i _ rfl)
  | resumeWait i | resumeToolResult i => exact .inl (hset i .done rfl)
  | waitSuspend | requestSuspend | getToolResultSuspend => exact .inl (happ _)
  | getClaudeMessages | waitReady | getAndConsumeMessages | sendToClaude | getRegisteredTools
  | getToolResultReady => exact .inl (by simpa [popToolResult] using ht)

/-- A step other than its completion leaves a suspended dispatch in place. -/
theorem step_keeps_dispatch {s s' : ClaudeMessageReceiver Msg H} {op : Op Msg} {o : Out Msg}
    {j : Nat} {req : ToolRequest} {handler : ToolHandler H} (hi : s.initialised = true)
    (h : s.step op = some (.ok (s', o)))
    (hj : s.tasks[j]? = some (.requestToolExecution req handler))
    (hop : ∀ out, op ≠ .handlerReturns j out) :
    s'.tasks[j]? = some (.requestToolExecution req handler) := by
  have hk : op.task ≠ some j := by
    intro hk
    cases op <;> simp only [Op.task, Option.some.injEq, reduceCtorEq] at hk <;> subst hk
    · simp [step, hj] at h
    · exact hop _ rfl
    · simp [step, hj] at h
  rcases step_getElem?_tasks hi h hk hj with h' | ⟨e, h'⟩ <;> exact h'

/-- The timer of an unwoken timed `wait_for_claude_messages` can fire, and the call then
resumes with the inbound buffer, leaving it empty and the message event clear. -/
theorem step_timeout_resume {s : ClaudeMessageReceiver Msg H} {i e : Nat}
    (hi : s.tasks[i]? = some (.waitForClaudeMessages e true false)) :
    ∃ s₁ s₂, s.step (.timeout i) = some (.ok (s₁, .none)) ∧
      s₁.step (.resume i) = some (.ok (s₂, .messages s.claudeMessages)) ∧
      s₂.claudeMessages = [] ∧ s₂.isSet s₂.claudeMessageEvent = false := by
  let s₁ : ClaudeMessageReceiver Msg H :=
    { s with tasks := s.tasks.set i (.waitForClaudeMessages e true true) }
  have hi₁ : s₁.tasks[i]? = some (.waitForClaudeMessages e true true) := by
    simp [s₁, List.getElem?_set, (List.getElem?_eq_some_iff.1 hi).1]
  refine ⟨s₁, ((s₁.finish i).takeClaudeMessages).2, by simp only [step, hi], ?_, rfl, ?_⟩
  · simp only [step, hi₁]
    rfl
  · simp [finish, takeClaudeMessages]

/-! ## Which steps raise -/

/-- The `KeyError` of line 227 cannot come from the branch without a handler: the rendezvous
was created by the same step. -/
theorem requestToolExecution_ne_error (req : ToolRequest) (err : KeyError) :
    s.requestToolExecution req ≠ .error err := by
  simp only [requestToolExecution]
  split
  · simp [storeToolResult, Except.map]
  · simp

/-- **Only a resolve raises.**  A step raises exactly when it completes the handler of a
suspended dispatch whose id has no rendezvous any more, and the `KeyError` names that id. -/
theorem step_eq_error {op : Op Msg} {err : KeyError} :
    s.step op = some (.error err) ↔
      ∃ i out req handler, op = .handlerReturns i out ∧
        s.tasks[i]? = some (.requestToolExecution req handler) ∧
        s.toolResultEvents req.toolId = none ∧ err = ⟨req.toolId⟩ := by
  constructor
  · intro h
    cases op with
    | requestToolExecution req =>
      simp only [step, Option.some.injEq] at h
      cases hr : s.requestToolExecution req with
      | error e => exact absurd hr (s.requestToolExecution_ne_error req e)
      | ok r => simp [hr, Except.map] at h
    | timeout i => simp only [step] at h; split at h <;> simp at h
    | handlerReturns i out =>
      simp only [step] at h
      split at h
      · rename_i req handler hi
        simp only [storeToolResult, finish, Option.some.injEq] at h
        split at h
        · simp [Except.map] at h
        · simp only [Except.map, Except.error.injEq] at h
          exact ⟨i, out, req, handler, rfl, hi, ‹_›, h.symm⟩
      · cases h
    | resume i => simp only [step] at h; split at h <;> simp at h
    | _ => simp [step] at h
  · rintro ⟨i, out, req, handler, rfl, hi, he, rfl⟩
    simp [step, hi, storeToolResult, finish, he, Except.map]

end ClaudeMessageReceiver

end ClaudeAgent
