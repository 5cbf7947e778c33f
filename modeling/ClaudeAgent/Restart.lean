import ClaudeAgent.Steps

/-!
# `init_claude_receiver()` strands the calls suspended before it

`init_claude_receiver()` replaces `_claude_message_event` and `_tool_result_events` by new
`asyncio.Event` objects.  A call that suspended before it keeps waiting on an old object, and
no later step can reach that object again:

* `AfterInit n₀` — after an init that found `n₀` events, the message event and every
  rendezvous were created by that init or after it.
* `Task.StuckBefore n₀` — a `wait_for_claude_messages()` without a timeout, or a
  `get_tool_result`, not yet woken and waiting on one of the first `n₀` events.
* `Frozen n₀ s s'` — the first `n₀` events keep their flags and every such call keeps its
  place; `step_frozen` for one step, `Run.frozen` for a run.
* `init_strands_suspended_calls` — after `init_claude_receiver()`, whatever runs, no event
  created before it is set or cleared again, and a call of that kind suspended before it is
  never woken, so it never returns.
* `step_keeps_old_timed_wait`, `Run.old_timed_wait` and `init_timed_wait_takes_new_messages`
  — a `wait_for_claude_messages(timeout)` suspended before the init is not stranded: over
  every run after it no message wakes it, its timer can still fire, and it then drains the
  buffer the init started.
-/

set_option autoImplicit false

namespace ClaudeAgent

variable {Msg H : Type}

/-- A suspended call that only an event set can release, waiting on one of the first `n₀`
events. -/
def Task.StuckBefore (n₀ : Nat) : Task H → Prop
  | .waitForClaudeMessages e false false => e < n₀
  | .getToolResult _ e false => e < n₀
  | _ => False

/-- Setting a later event does not wake such a call. -/
theorem Task.wake_of_stuckBefore {n₀ e' : Nat} {t : Task H} (ht : t.StuckBefore n₀)
    (he' : n₀ ≤ e') : t.wake e' = t := by
  rcases t with ⟨e, _ | _, _ | _⟩ | _ | ⟨x, e, _ | _⟩ | _ <;>
    simp only [Task.StuckBefore] at ht <;>
    simp [Task.wake, beq_false_of_ne (show e ≠ e' by omega)]

namespace ClaudeMessageReceiver

/-- After an `init_claude_receiver()` that found `n₀` events. -/
structure AfterInit (n₀ : Nat) (s : ClaudeMessageReceiver Msg H) : Prop where
  initialised : s.initialised = true
  length : n₀ < s.events.length
  message : n₀ ≤ s.claudeMessageEvent
  rendezvous : ∀ (x : String) (e : Nat), s.toolResultEvents x = some e → n₀ ≤ e

theorem AfterInit.init (s : ClaudeMessageReceiver Msg H) {n₀ : Nat}
    (h : n₀ ≤ s.events.length) :
    AfterInit n₀ s.initClaudeReceiver :=
  ⟨rfl, by simp; omega, by simpa using h, by simp⟩

/-- The first `n₀` events keep their flags, and every call stuck on one of them keeps its
place. -/
structure Frozen (n₀ : Nat) (s s' : ClaudeMessageReceiver Msg H) : Prop where
  flag : ∀ e, e < n₀ → s'.isSet e = s.isSet e
  task : ∀ (i : Nat) (t : Task H), t.StuckBefore n₀ → s.tasks[i]? = some t →
    s'.tasks[i]? = some t

theorem Frozen.refl (n₀ : Nat) (s : ClaudeMessageReceiver Msg H) : Frozen n₀ s s :=
  ⟨fun _ _ => rfl, fun _ _ _ h => h⟩

theorem Frozen.trans {n₀ : Nat} {s₁ s₂ s₃ : ClaudeMessageReceiver Msg H}
    (h₁ : Frozen n₀ s₁ s₂) (h₂ : Frozen n₀ s₂ s₃) : Frozen n₀ s₁ s₃ :=
  ⟨fun e he => (h₂.flag e he).trans (h₁.flag e he),
    fun i t ht h => h₂.task i t ht (h₁.task i t ht h)⟩

/-- `init_claude_receiver()` itself only adds an event and keeps every suspended call. -/
theorem Frozen.initClaudeReceiver (n₀ : Nat) (s : ClaudeMessageReceiver Msg H) :
    Frozen n₀ s s.initClaudeReceiver :=
  ⟨fun e _ => by simp only [isSet, initClaudeReceiver_events, getD_append_false],
    fun _ _ _ h => by simpa using h⟩

/-- `event.set()` on a later event leaves a stuck call in place. -/
theorem getElem?_tasks_setEvent_stuck (s : ClaudeMessageReceiver Msg H) {n₀ e' i : Nat}
    {t : Task H} (ht : t.StuckBefore n₀) (h : s.tasks[i]? = some t) (he' : n₀ ≤ e') :
    (s.setEvent e').tasks[i]? = some t := by
  simp only [setEvent_tasks]
  split
  · exact h
  · simp [List.getElem?_map, h, Task.wake_of_stuckBefore ht he']

/-- **One step after the init.**  Every step keeps `AfterInit n₀`; it sets, clears or
creates only events past the first `n₀`, and it completes no stuck call. -/
theorem step_frozen {n₀ : Nat} {s s' : ClaudeMessageReceiver Msg H} {op : Op Msg}
    {o : Out Msg} (hinv : AfterInit n₀ s) (h : s.step op = some (.ok (s', o))) :
    AfterInit n₀ s' ∧ Frozen n₀ s s' := by
  by_cases hop : op = .initClaudeReceiver
  · subst hop
    simp only [step, Option.some.injEq, Except.ok.injEq, Prod.mk.injEq] at h
    obtain ⟨rfl, -⟩ := h
    exact ⟨AfterInit.init s (Nat.le_of_lt hinv.length), .initClaudeReceiver n₀ s⟩
  have hi := hinv.initialised
  have hm := hinv.message
  have hlen := hinv.length
  -- a rendezvous created now is the next event
  have hfresh : ∀ y x e,
      Function.update s.toolResultEvents y (some s.events.length) x = some e → n₀ ≤ e :=
    fun y x e hx => by
      by_cases hxy : x = y
      · subst hxy; simp at hx; omega
      · simp [hxy] at hx; exact hinv.rendezvous x e hx
  have hpop : ∀ y x e, Function.update s.toolResultEvents y none x = some e → n₀ ≤ e :=
    fun y x e hx => by
      by_cases hxy : x = y
      · subst hxy; simp at hx
      · simp [hxy] at hx; exact hinv.rendezvous x e hx
  cases step_spec hi hop h with
  | receiveClaudeMessage =>
    exact ⟨⟨hi, by simpa using hlen, hm, hinv.rendezvous⟩,
      ⟨fun e he => by simp; omega,
        fun i t ht h' => getElem?_tasks_setEvent_stuck _ ht (by simpa using h') hm⟩⟩
  | getClaudeMessages | waitReady =>
    exact ⟨⟨hi, by simpa using hlen, hm, hinv.rendezvous⟩,
      ⟨fun e he => by simp; omega, fun i t _ h' => by simpa using h'⟩⟩
  | getAndConsumeMessages | sendToClaude =>
    exact ⟨⟨hi, hlen, hm, hinv.rendezvous⟩, ⟨fun _ _ => rfl, fun _ _ _ h => h⟩⟩
  | getRegisteredTools =>
    exact ⟨⟨by simpa using hi, by simpa using hlen, by simpa using hm,
      by simpa using hinv.rendezvous⟩,
      ⟨fun e _ => by simp, fun i t _ h' => by simpa using h'⟩⟩
  | waitSuspend | getToolResultSuspend =>
    exact ⟨⟨hi, hlen, hm, hinv.rendezvous⟩,
      ⟨fun _ _ => rfl, fun i t _ h' => getElem?_append_singleton_of_some _ h'⟩⟩
  | requestNoHandler req =>
    refine ⟨⟨by simpa using hi, by simp; omega, by simpa using hm,
      fun x e hx => hfresh _ x e (by simpa using hx)⟩,
      ⟨fun e he => by simp; omega, fun i t ht h' => ?_⟩⟩
    exact getElem?_tasks_setEvent_stuck _ ht (by simpa using h') (by omega)
  | requestSuspend req handler =>
    exact ⟨⟨by simpa using hi, by simp; omega, by simpa using hm,
      fun x e hx => hfresh _ x e (by simpa using hx)⟩,
      ⟨fun e he => by simp,
        fun i t _ h' => by simpa using getElem?_append_singleton_of_some _ h'⟩⟩
  | getToolResultReady y =>
    exact ⟨⟨hi, hlen, hm, fun x e hx => hpop y x e hx⟩,
      ⟨fun _ _ => rfl, fun i t _ h' => by simpa [popToolResult] using h'⟩⟩
  | timeout j e' hj =>
    exact ⟨⟨hi, hlen, hm, hinv.rendezvous⟩,
      ⟨fun _ _ => rfl, fun i t ht h' =>
        getElem?_set_of_some hj h' (by rintro rfl; simp [Task.StuckBefore] at ht)⟩⟩
  | resumeWait j e' timed hj =>
    refine ⟨⟨hi, by simpa [finish] using hlen, hm, hinv.rendezvous⟩,
      ⟨fun e he => by simp [finish]; omega, fun i t ht h' => ?_⟩⟩
    simpa [finish] using
      getElem?_set_of_some hj h' (by rintro rfl; simp [Task.StuckBefore] at ht)
  | resumeToolResult j y e' hj =>
    refine ⟨⟨hi, hlen, hm, fun x e hx => hpop y x e hx⟩,
      ⟨fun _ _ => rfl, fun i t ht h' => ?_⟩⟩
    simpa [popToolResult, finish] using
      getElem?_set_of_some hj h' (by rintro rfl; simp [Task.StuckBefore] at ht)
  | handlerReturns j out req handler e' hj he' =>
    have hle := hinv.rendezvous _ e' he'
    refine ⟨⟨hi, by simpa [finish] using hlen, hm, by simpa [finish] using hinv.rendezvous⟩,
      ⟨fun e he => by simp [finish]; omega, fun i t ht h' => ?_⟩⟩
    refine getElem?_tasks_setEvent_stuck _ ht ?_ hle
    simpa [finish] using
      getElem?_set_of_some hj h' (by rintro rfl; simp [Task.StuckBefore] at ht)

/-- `event.set()` on another event leaves a waiter as it is. -/
theorem getElem?_tasks_setEvent_waiter (s : ClaudeMessageReceiver Msg H) {e' i e : Nat}
    {timed w : Bool} (h : s.tasks[i]? = some (Task.waitForClaudeMessages e timed w))
    (hne : e ≠ e') : (s.setEvent e').tasks[i]? = some (Task.waitForClaudeMessages e timed w) := by
  simp only [setEvent_tasks]
  split
  · exact h
  · simp [List.getElem?_map, h, Task.wake, beq_false_of_ne hne]

/-- **One step after the init, for a timed waiter from before it.**  Every step but the
waiter's own timer leaves a timed `wait_for_claude_messages` on one of the first `n₀` events,
not yet woken, in place and unwoken: the events a step sets are all later ones. -/
theorem step_keeps_old_timed_wait {n₀ i e : Nat} {s s' : ClaudeMessageReceiver Msg H}
    {op : Op Msg} {o : Out Msg} (hinv : AfterInit n₀ s) (he : e < n₀)
    (hi : s.tasks[i]? = some (Task.waitForClaudeMessages e true false)) (hop : op ≠ .timeout i)
    (h : s.step op = some (.ok (s', o))) :
    s'.tasks[i]? = some (Task.waitForClaudeMessages e true false) := by
  by_cases hinit : op = .initClaudeReceiver
  · subst hinit
    simp only [step, Option.some.injEq, Except.ok.injEq, Prod.mk.injEq] at h
    obtain ⟨rfl, -⟩ := h
    simpa using hi
  have hm := hinv.message
  have hlen := hinv.length
  cases step_spec hinv.initialised hinit h with
  | receiveClaudeMessage | requestNoHandler =>
    exact getElem?_tasks_setEvent_waiter _ (by simpa using hi) (by omega)
  | getClaudeMessages | waitReady | getRegisteredTools | getToolResultReady =>
    simpa [popToolResult] using hi
  | getAndConsumeMessages | sendToClaude => exact hi
  | waitSuspend | getToolResultSuspend => exact getElem?_append_singleton_of_some _ hi
  | requestSuspend req handler => simpa using getElem?_append_singleton_of_some _ hi
  | timeout j e' hj =>
    exact (List.getElem?_set_ne fun hji : j = i => hop (by rw [hji])).trans hi
  | handlerReturns j out req handler e' hj he' =>
    -- the event set is the rendezvous of a request made after the init
    have hle := hinv.rendezvous _ e' he'
    refine getElem?_tasks_setEvent_waiter _ ?_ (by omega)
    simpa [finish] using getElem?_set_of_some hj hi (by simp)
  | resumeWait j e' timed hj => simpa [finish] using getElem?_set_of_some hj hi (by simp)
  | resumeToolResult j y e' hj =>
    simpa [popToolResult, finish] using getElem?_set_of_some hj hi (by simp)

end ClaudeMessageReceiver

open ClaudeMessageReceiver

/-- A run after the init keeps `AfterInit n₀` and freezes the first `n₀` events and the calls
stuck on them. -/
theorem Run.frozen {n₀ : Nat} {s s' : ClaudeMessageReceiver Msg H} {ops : List (Op Msg)}
    {outs : List (Out Msg)} (hrun : Run (fun _ _ => True) s ops s' outs) (hinv : AfterInit n₀ s) :
    AfterInit n₀ s' ∧ Frozen n₀ s s' := by
  induction hrun with
  | nil s => exact ⟨hinv, .refl n₀ s⟩
  | cons _ hst _ ih =>
    obtain ⟨h₁, hf₁⟩ := step_frozen hinv hst
    obtain ⟨h₂, hf₂⟩ := ih h₁
    exact ⟨h₂, hf₁.trans hf₂⟩

/-- **`init_claude_receiver()` strands the calls suspended before it.**  For every state and
every run after an `init_claude_receiver()` from it: no event created before the init is set
or cleared again; and a `wait_for_claude_messages()` without a timeout, or a
`get_tool_result`, that was suspended before the init and not yet woken stays suspended and
unwoken, so resuming it is never enabled: it never returns. -/
theorem init_strands_suspended_calls (s : ClaudeMessageReceiver Msg H) {ops : List (Op Msg)}
    {s' : ClaudeMessageReceiver Msg H} {outs : List (Out Msg)}
    (hrun : Run (fun _ _ => True) s.initClaudeReceiver ops s' outs) :
    (∀ e, e < s.events.length → s'.isSet e = s.isSet e) ∧
    ∀ (i : Nat) (t : Task H), t.StuckBefore s.events.length → s.tasks[i]? = some t →
      s'.tasks[i]? = some t ∧ s'.step (.resume i) = none := by
  have hf := (Frozen.initClaudeReceiver _ s).trans (hrun.frozen (AfterInit.init s le_rfl)).2
  refine ⟨hf.flag, fun i t ht hi => ?_⟩
  have hi' := hf.task i t ht hi
  refine ⟨hi', ?_⟩
  rcases t with ⟨e, _ | _, _ | _⟩ | _ | ⟨x, e, _ | _⟩ | _ <;>
    simp only [Task.StuckBefore] at ht <;> simp [step, hi']

/-- After `init_claude_receiver()` a `wait_for_claude_messages()` without a timeout suspends on
event 0; a second `init_claude_receiver()` creates event 1, and the message `"m"` then sets
event 1 and leaves the waiter unwoken. -/
theorem init_strands_suspended_calls_waiter :
    let s₁ : ClaudeMessageReceiver String Unit :=
      (ClaudeMessageReceiver.new ⟨0, []⟩ (fun _ => none)).initClaudeReceiver
    let s₂ : ClaudeMessageReceiver String Unit :=
      { s₁ with tasks := [.waitForClaudeMessages 0 false false] }
    let s₃ : ClaudeMessageReceiver String Unit :=
      { s₂.initClaudeReceiver with claudeMessages := ["m"], events := [false, true] }
    Reachable (fun _ _ => True) s₂ ∧
      Run (fun _ _ => True) s₂.initClaudeReceiver [.receiveClaudeMessage "m"] s₃ [.none] ∧
      (∀ e, e < s₂.events.length → s₃.isSet e = s₂.isSet e) ∧
      ∀ (i : Nat) (t : Task Unit), t.StuckBefore s₂.events.length →
        s₂.tasks[i]? = some t → s₃.tasks[i]? = some t ∧ s₃.step (.resume i) = none := by
  intro s₁ s₂ s₃
  have h₂ : Reachable (fun _ _ => True) s₂ := .step (.init _ rfl) trivial
    (rfl : s₁.step (.waitForClaudeMessages false) = some (.ok (s₂, .suspended 0)))
  have hrun : Run (fun _ _ => True) s₂.initClaudeReceiver [.receiveClaudeMessage "m"] s₃
      [.none] :=
    .cons trivial (rfl : s₂.initClaudeReceiver.step (.receiveClaudeMessage "m") =
      some (.ok (s₃, .none))) (.nil s₃)
  exact ⟨h₂, hrun, init_strands_suspended_calls s₂ hrun⟩

/-- Every run after the init without the waiter's timer leaves it in place and unwoken. -/
theorem Run.old_timed_wait {n₀ i e : Nat} {s s' : ClaudeMessageReceiver Msg H}
    {ops : List (Op Msg)} {outs : List (Out Msg)}
    (hrun : Run (fun _ op => op ≠ .timeout i) s ops s' outs) (hinv : AfterInit n₀ s)
    (he : e < n₀)
    (hi : s.tasks[i]? = some (Task.waitForClaudeMessages e true false)) :
    AfterInit n₀ s' ∧ s'.tasks[i]? = some (Task.waitForClaudeMessages e true false) := by
  induction hrun with
  | nil => exact ⟨hinv, hi⟩
  | cons hop hst _ ih =>
    exact ih (step_frozen hinv hst).1 (step_keeps_old_timed_wait hinv he hi hop hst)

/-- **A timed wait crosses an init.**  Unlike the calls of `init_strands_suspended_calls`, a
`wait_for_claude_messages(timeout)` suspended before `init_claude_receiver()` and not yet woken
is not stranded.  Over every run after the init that does not fire its timer, it stays
suspended and unwoken, since no message of the new epoch wakes it; at every point its timer
can fire, and on resuming it returns the buffer the init started, whatever that holds,
leaving it empty and its event clear. -/
theorem init_timed_wait_takes_new_messages (s : ClaudeMessageReceiver Msg H)
    {ops : List (Op Msg)} {s' : ClaudeMessageReceiver Msg H} {outs : List (Out Msg)} {i e : Nat}
    (hi : s.tasks[i]? = some (Task.waitForClaudeMessages e true false))
    (he : e < s.events.length)
    (hrun : Run (fun _ op => op ≠ .timeout i) s.initClaudeReceiver ops s' outs) :
    s'.tasks[i]? = some (Task.waitForClaudeMessages e true false) ∧
      ∃ s₁ s₂, s'.step (.timeout i) = some (.ok (s₁, .none)) ∧
        s₁.step (.resume i) = some (.ok (s₂, .messages s'.claudeMessages)) ∧
        s₂.claudeMessages = [] ∧ s₂.isSet s₂.claudeMessageEvent = false := by
  obtain ⟨-, hi'⟩ := hrun.old_timed_wait (AfterInit.init s le_rfl) he (by simpa using hi)
  exact ⟨hi', step_timeout_resume hi'⟩

/-- After `init_claude_receiver()`, a `wait_for_claude_messages(timeout)` suspends on event 0;
after a second `init_claude_receiver()` and the messages `"m"` and `"n"` it is still
suspended, and when its timer fires it returns `["m", "n"]`. -/
theorem init_timed_wait_takes_new_messages_waiter :
    let s₁ : ClaudeMessageReceiver String Unit :=
      (ClaudeMessageReceiver.new ⟨0, []⟩ (fun _ => none)).initClaudeReceiver
    let s₂ : ClaudeMessageReceiver String Unit :=
      { s₁ with tasks := [.waitForClaudeMessages 0 true false] }
    let t₁ := s₂.initClaudeReceiver.receiveClaudeMessage "m"
    let t₂ := t₁.receiveClaudeMessage "n"
    Reachable (fun _ _ => True) s₂ ∧ 0 < s₂.events.length ∧
      Run (fun _ op => op ≠ .timeout 0) s₂.initClaudeReceiver
        [.receiveClaudeMessage "m", .receiveClaudeMessage "n"] t₂ [.none, .none] ∧
      t₂.tasks[0]? = some (Task.waitForClaudeMessages 0 true false) ∧
      ∃ u₁ u₂, t₂.step (.timeout 0) = some (.ok (u₁, .none)) ∧
        u₁.step (.resume 0) = some (.ok (u₂, .messages ["m", "n"])) ∧
        u₂.claudeMessages = [] ∧ u₂.isSet u₂.claudeMessageEvent = false := by
  intro s₁ s₂ t₁ t₂
  have h₂ : Reachable (fun _ _ => True) s₂ := .step (.init _ rfl) trivial
    (rfl : s₁.step (.waitForClaudeMessages true) = some (.ok (s₂, .suspended 0)))
  have hrun : Run (fun _ op => op ≠ .timeout 0) s₂.initClaudeReceiver
      [.receiveClaudeMessage "m", .receiveClaudeMessage "n"] t₂ [.none, .none] :=
    .cons nofun (rfl : s₂.initClaudeReceiver.step (.receiveClaudeMessage "m") =
      some (.ok (t₁, .none)))
    (.cons nofun (rfl : t₁.step (.receiveClaudeMessage "n") = some (.ok (t₂, .none)))
      (.nil t₂))
  exact ⟨h₂, by decide, hrun, init_timed_wait_takes_new_messages s₂ rfl (by decide) hrun⟩

end ClaudeAgent
