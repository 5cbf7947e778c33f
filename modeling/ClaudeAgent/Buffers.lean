import ClaudeAgent.Steps

/-!
# The message buffers

`receive_claude_message`, `get_claude_messages`, `wait_for_claude_messages`,
`send_to_claude` and `get_and_consume_messages` after `init_claude_receiver`, interleaved
with every other step of the machine.

* `step_buffers` — one step moves messages only from a call's argument to the back of a
  buffer, or from a buffer to a call's result.
* `BufferInv` — the inbound readiness event is set iff the inbound buffer is non-empty.
* `ReaderInv` — under `SingleReader` (a drain starts only when no
  `wait_for_claude_messages` is suspended), a woken waiter without a timeout finds messages.
* `claude_message_buffers` — over every run: nothing lost, duplicated or reordered on either
  side, the readiness invariant, and no empty result from a wait without a timeout when one
  task drains at a time.
* `WaitClear` — a waiter not yet woken waits on a clear event; with it,
  `waiter_woken_by_message`: the next message delivered wakes a suspended waiter, which then
  returns exactly that message, and `timed_wait_returns`: a waiter with a timeout always
  returns, with `[]` when its timer fires first.
* `two_waiters_one_batch` — `SingleReader` is needed: one message wakes two waiters without a
  timeout, and the second to resume returns `[]`.
-/

set_option autoImplicit false

namespace ClaudeAgent

variable {Msg H : Type}

/-- The message a step hands to `receive_claude_message`. -/
def Op.inbound : Op Msg → List Msg
  | .receiveClaudeMessage m => [m]
  | _ => []

/-- The message a step hands to `send_to_claude`. -/
def Op.outbound : Op Msg → List String
  | .sendToClaude m => [m]
  | _ => []

/-- The inbound messages a step returns, from `get_claude_messages` or
`wait_for_claude_messages`. -/
def Out.inbound : Out Msg → List Msg
  | .messages b => b
  | _ => []

/-- The outbound messages a step returns, from `get_and_consume_messages`. -/
def Out.outbound : Out Msg → List String
  | .outgoing b => b
  | _ => []

namespace ClaudeMessageReceiver

/-! ## One step -/

/-- **One step on the buffers.**  After `init_claude_receiver`, a step other than another
init keeps the receiver initialised and its message event, and moves messages only from its
argument to the back of a buffer or from a whole buffer to its result. -/
theorem step_buffers {s s' : ClaudeMessageReceiver Msg H} {op : Op Msg} {o : Out Msg}
    (hi : s.initialised = true) (hop : op ≠ .initClaudeReceiver)
    (h : s.step op = some (.ok (s', o))) :
    s'.initialised = true ∧ s'.claudeMessageEvent = s.claudeMessageEvent ∧
    o.inbound ++ s'.claudeMessages = s.claudeMessages ++ op.inbound ∧
    o.outbound ++ s'.claudeOutgoing = s.claudeOutgoing ++ op.outbound := by
  cases step_spec hi hop h <;>
    simp [setEvent, takeClaudeMessages, clearEvent, finish, popToolResult, getToolRegistry_snd_eq,
      Out.inbound, Out.outbound, Op.inbound, Op.outbound, hi]

/-! ## The readiness event -/

/-- The invariant of the inbound buffer after `init_claude_receiver`: its event exists, no
rendezvous shares it, and it is set iff the buffer is non-empty. -/
structure BufferInv (s : ClaudeMessageReceiver Msg H) : Prop where
  initialised : s.initialised = true
  event_lt : s.claudeMessageEvent < s.events.length
  toolEvent_ne : ∀ x e, s.toolResultEvents x = some e → e ≠ s.claudeMessageEvent
  ready : s.isSet s.claudeMessageEvent = true ↔ s.claudeMessages ≠ []

theorem BufferInv.init (s : ClaudeMessageReceiver Msg H) : BufferInv s.initClaudeReceiver where
  initialised := rfl
  event_lt := by simp
  toolEvent_ne := by simp
  ready := by simp [initClaudeReceiver_events, isSet, getD_append_false]

/-- Every step but another init keeps `BufferInv`. -/
theorem BufferInv.step {s s' : ClaudeMessageReceiver Msg H} {op : Op Msg} {o : Out Msg}
    (hinv : BufferInv s) (hop : op ≠ .initClaudeReceiver) (h : s.step op = some (.ok (s', o))) :
    BufferInv s' := by
  obtain ⟨hi, hlt, hne, hready⟩ := hinv
  -- a rendezvous created now takes the next event number, past the message event
  have hfresh : ∀ (x y : String) e, Function.update s.toolResultEvents y (some s.events.length) x =
      some e → e ≠ s.claudeMessageEvent := fun x y e hx => by
    by_cases hxy : x = y
    · subst hxy; simp at hx; omega
    · simp [hxy] at hx; exact hne x e hx
  have hpop : ∀ (x y : String) e, Function.update s.toolResultEvents y none x = some e →
      e ≠ s.claudeMessageEvent := fun x y e hx => by
    by_cases hxy : x = y
    · subst hxy; simp at hx
    · simp [hxy] at hx; exact hne x e hx
  cases step_spec hi hop h with
  | receiveClaudeMessage m => exact ⟨hi, by simpa using hlt, hne, by simp [hlt]⟩
  | getClaudeMessages | waitReady => exact ⟨hi, by simpa using hlt, hne, by simp⟩
  | resumeWait => exact ⟨hi, by simpa [finish] using hlt, hne, by simp [finish]⟩
  | requestNoHandler req =>
    exact ⟨by simpa using hi, by simp; omega,
      fun x e hx => by simpa using hfresh x req.toolId e (by simpa using hx),
      by simpa [Nat.ne_of_lt hlt] using hready⟩
  | requestSuspend req handler =>
    exact ⟨by simpa using hi, by simp; omega,
      fun x e hx => by simpa using hfresh x req.toolId e (by simpa using hx), by simpa using hready⟩
  | handlerReturns i out req handler e ht he =>
    exact ⟨hi, by simpa [finish] using hlt, by simpa [finish] using hne,
      by simpa [finish, Ne.symm (hne _ _ he)] using hready⟩
  | getToolResultReady toolId =>
    exact ⟨hi, hlt, fun x e hx => hpop x toolId e hx, by simpa [popToolResult] using hready⟩
  | resumeToolResult i toolId =>
    exact ⟨hi, by simpa [finish, popToolResult] using hlt, fun x e hx => hpop x toolId e hx,
      by simpa [finish, popToolResult] using hready⟩
  | getRegisteredTools => exact ⟨by simpa using hi, by simpa using hlt, by simpa using hne, by simpa using hready⟩
  | waitSuspend | getToolResultSuspend | timeout | getAndConsumeMessages | sendToClaude =>
    exact ⟨hi, hlt, hne, by simpa using hready⟩

/-! ## One reader at a time -/

/-- At most one call drains the inbound buffer at a time: `get_claude_messages` and
`wait_for_claude_messages` start only when no `wait_for_claude_messages` is suspended. -/
def SingleReader (s : ClaudeMessageReceiver Msg H) : Op Msg → Prop
  | .initClaudeReceiver => False
  | .getClaudeMessages | .waitForClaudeMessages _ =>
    ∀ (i e : Nat) (timed woken : Bool), s.tasks[i]? ≠ some (Task.waitForClaudeMessages e timed woken)
  | _ => True

/-- Under `SingleReader`: a suspended `wait_for_claude_messages` waits on the message event,
is the only one, and if it has no timeout and has been woken the buffer is non-empty. -/
structure ReaderInv (s : ClaudeMessageReceiver Msg H) : Prop where
  buffers : BufferInv s
  waiter : ∀ (i e : Nat) (timed woken : Bool), s.tasks[i]? = some (Task.waitForClaudeMessages e timed woken) →
    e = s.claudeMessageEvent ∧ (timed = false → woken = true → s.claudeMessages ≠ []) ∧
    ∀ (j e' : Nat) (timed' woken' : Bool), s.tasks[j]? = some (Task.waitForClaudeMessages e' timed' woken') → j = i

/-- A step that keeps the buffer, its event and every suspended waiter keeps `ReaderInv`. -/
theorem ReaderInv.of_waiters {s s' : ClaudeMessageReceiver Msg H} (hinv : ReaderInv s)
    (hb : BufferInv s') (hm : s'.claudeMessages = s.claudeMessages)
    (he : s'.claudeMessageEvent = s.claudeMessageEvent)
    (hw : ∀ (j e : Nat) (timed w : Bool), s'.tasks[j]? = some (Task.waitForClaudeMessages e timed w) →
      s.tasks[j]? = some (Task.waitForClaudeMessages e timed w)) : ReaderInv s' := by
  refine ⟨hb, fun i e timed woken hi => ?_⟩
  obtain ⟨h1, h2, h3⟩ := hinv.waiter i e timed woken (hw _ _ _ _ hi)
  exact ⟨he ▸ h1, hm ▸ h2, fun j e' t' w' hj => h3 j e' t' w' (hw _ _ _ _ hj)⟩

/-- Every step admitted by `SingleReader` keeps `ReaderInv`. -/
theorem ReaderInv.step {s s' : ClaudeMessageReceiver Msg H} {op : Op Msg} {o : Out Msg}
    (hinv : ReaderInv s) (hop : SingleReader s op) (h : s.step op = some (.ok (s', o))) :
    ReaderInv s' := by
  have hnot : op ≠ .initClaudeReceiver := by rintro rfl; exact hop
  have hb := hinv.buffers.step hnot h
  obtain ⟨hi, -, hne, -⟩ := hinv.buffers
  have hspec := step_spec hi hnot h
  clear h
  -- a waiter is never woken by the event of a rendezvous
  have hwake : ∀ {e j e' : Nat} {timed w : Bool}, e ≠ s.claudeMessageEvent →
      ∀ t : ClaudeMessageReceiver Msg H, t.tasks = s.tasks →
      (t.setEvent e).tasks[j]? = some (Task.waitForClaudeMessages e' timed w) →
      s.tasks[j]? = some (Task.waitForClaudeMessages e' timed w) := by
    intro e j e' timed w he t ht hj
    obtain ⟨w₀, hj₀, hw⟩ := getElem?_tasks_setEvent_wait t hj
    rw [ht] at hj₀
    obtain ⟨rfl, -⟩ := hinv.waiter j e' timed w₀ hj₀
    simpa [hw, beq_false_of_ne (Ne.symm he)] using hj₀
  cases hspec with
  | receiveClaudeMessage m =>
    refine ⟨hb, fun i e timed woken hw => ?_⟩
    obtain ⟨w, hw₀, -⟩ := getElem?_tasks_setEvent_wait _ hw
    obtain ⟨h1, -, h3⟩ := hinv.waiter i e timed w hw₀
    refine ⟨h1, by simp, fun j e' t' w' hj => ?_⟩
    obtain ⟨w₁, hj₀, -⟩ := getElem?_tasks_setEvent_wait _ hj
    exact h3 j e' t' w₁ hj₀
  | getClaudeMessages | waitReady =>
    exact ⟨hb, fun i e timed woken hw => absurd (by simpa using hw) (hop i e timed woken)⟩
  | waitSuspend timed hc =>
    refine ⟨hb, fun i e t w hw => ?_⟩
    -- the new waiter is the only one
    have hnew : ∀ j e' t' w', (s.tasks ++ [Task.waitForClaudeMessages s.claudeMessageEvent timed
        (s.isSet s.claudeMessageEvent)])[j]? = some (Task.waitForClaudeMessages e' t' w') →
        j = s.tasks.length ∧ e' = s.claudeMessageEvent ∧ t' = timed ∧
          w' = s.isSet s.claudeMessageEvent := by
      intro j e' t' w' hj
      rcases getElem?_append_singleton hj with hj | ⟨hjl, hj⟩
      · exact absurd hj (hop j e' t' w')
      · simp only [Task.waitForClaudeMessages.injEq] at hj
        exact ⟨hjl, hj⟩
    obtain ⟨rfl, rfl, rfl, rfl⟩ := hnew i e t w hw
    refine ⟨rfl, fun ht hw' => ?_, fun j e' t' w' hj => (hnew j e' t' w' hj).1⟩
    rw [hc.resolve_left (by simp [ht])] at hw'
    cases hw'
  | requestNoHandler req =>
    refine hinv.of_waiters hb (by simp) (by simp) fun j e t w hj =>
      hwake (by have := hinv.buffers.event_lt; omega) _ (by simp) hj
  | handlerReturns i out req handler e ht he =>
    refine hinv.of_waiters hb (by simp [finish]) (by simp [finish]) fun j e' t w hj => ?_
    obtain ⟨w₀, hj₀, hw⟩ := getElem?_tasks_setEvent_wait _ hj
    obtain ⟨-, hj₁⟩ := getElem?_set_of_ne (by simpa [finish] using hj₀) (by simp)
    obtain ⟨rfl, -⟩ := hinv.waiter j e' t w₀ hj₁
    simpa [hw, beq_false_of_ne (Ne.symm (hne _ _ he))] using hj₁
  | requestSuspend req handler =>
    exact hinv.of_waiters hb (by simp) (by simp) fun j e t w hj =>
      getElem?_append_of_ne (by simpa using hj) (by simp)
  | getToolResultSuspend toolId e he hclear =>
    exact hinv.of_waiters hb rfl rfl fun j e t w hj => getElem?_append_of_ne hj (by simp)
  | timeout i e ht =>
    obtain ⟨h1, -, h3⟩ := hinv.waiter i e true false ht
    -- the only waiter is task `i`, now woken by its timer
    have hfire : ∀ j e' t w, (s.tasks.set i (Task.waitForClaudeMessages e true true))[j]? =
        some (Task.waitForClaudeMessages e' t w) → j = i ∧ e' = e ∧ t = true := by
      intro j e' t w hj
      rcases eq_or_ne i j with rfl | hij
      · rw [List.getElem?_set_self (List.getElem?_eq_some_iff.1 ht).1] at hj
        simp only [Option.some.injEq, Task.waitForClaudeMessages.injEq] at hj
        exact ⟨rfl, hj.1.symm, hj.2.1.symm⟩
      · rw [List.getElem?_set_ne hij] at hj
        exact absurd (h3 j e' t w hj) hij.symm
    refine ⟨hb, fun j e' t w hj => ?_⟩
    obtain ⟨rfl, rfl, rfl⟩ := hfire j e' t w hj
    exact ⟨h1, fun h => absurd h (by simp), fun k e'' t' w' hk => (hfire k e'' t' w' hk).1⟩
  | resumeWait i e timed ht =>
    refine ⟨hb, fun j e' t w hj => ?_⟩
    obtain ⟨hij, hj₀⟩ := getElem?_set_of_ne (by simpa [finish] using hj) (by simp)
    exact absurd ((hinv.waiter i e timed true ht).2.2 j e' t w hj₀).symm hij
  | resumeToolResult i toolId e ht =>
    refine hinv.of_waiters hb (by simp [finish, popToolResult]) (by simp [finish, popToolResult])
      fun j e' t w hj => (getElem?_set_of_ne (by simpa [finish, popToolResult] using hj) (by simp)).2
  | getToolResultReady toolId h =>
    exact hinv.of_waiters hb (by simp [popToolResult]) (by simp [popToolResult])
      fun j e t w hj => by simpa [popToolResult] using hj
  | getRegisteredTools | getAndConsumeMessages | sendToClaude =>
    exact hinv.of_waiters hb (by simp) (by simp) fun j e t w hj => by simpa using hj

/-- The step is the return of a `wait_for_claude_messages` without a timeout: at once, or as
the resumption of a suspended one. -/
def UntimedWait (s : ClaudeMessageReceiver Msg H) (op : Op Msg) : Prop :=
  op = .waitForClaudeMessages false ∨
    ∃ i e w, op = .resume i ∧ s.tasks[i]? = some (Task.waitForClaudeMessages e false w)

/-- Under `ReaderInv`, a wait without a timeout returns a non-empty batch. -/
theorem ReaderInv.untimed_nonempty {s s' : ClaudeMessageReceiver Msg H} {op : Op Msg}
    {batch : List Msg} (hinv : ReaderInv s) (hop : op ≠ .initClaudeReceiver)
    (h : s.step op = some (.ok (s', .messages batch))) (hu : UntimedWait s op) : batch ≠ [] := by
  rcases hu with rfl | ⟨i, e, w, rfl, ht⟩
  · cases step_spec hinv.buffers.initialised hop h with
    | waitReady hset => exact hinv.buffers.ready.1 hset
  · cases step_spec hinv.buffers.initialised hop h with
    | resumeWait _ _ _ ht' =>
      rw [ht] at ht'
      cases ht'
      exact (hinv.waiter i e false true ht).2.1 rfl rfl

/-- A suspended `wait_for_claude_messages` not yet woken waits on a clear event. -/
def WaitClear (s : ClaudeMessageReceiver Msg H) : Prop :=
  ∀ (i e : Nat) (timed : Bool), s.tasks[i]? = some (Task.waitForClaudeMessages e timed false) →
    s.isSet e = false

/-- Every step that `SingleReader` admits keeps `WaitClear`: only `receive_claude_message`
sets the message event, and that wakes the waiter. -/
theorem WaitClear.step {s s' : ClaudeMessageReceiver Msg H} {op : Op Msg} {o : Out Msg}
    (hc : WaitClear s) (hinv : ReaderInv s) (hop : SingleReader s op)
    (h : s.step op = some (.ok (s', o))) : WaitClear s' := by
  have hnot : op ≠ .initClaudeReceiver := by rintro rfl; exact hop
  obtain ⟨hi, hlt, hne, -⟩ := hinv.buffers
  intro i e timed hw
  cases step_spec hi hnot h with
  | receiveClaudeMessage m =>
    -- the event was clear, so setting it woke the waiter
    obtain ⟨w, hw₀, hww⟩ := getElem?_tasks_setEvent_wait _ hw
    obtain ⟨rfl, -⟩ := hinv.waiter i e timed w hw₀
    obtain ⟨rfl, hset⟩ := Bool.or_eq_false_iff.1 hww.symm
    simp [hc i _ timed hw₀] at hset
  | getClaudeMessages | waitReady => exact absurd (by simpa using hw) (hop i e timed false)
  | waitSuspend =>
    rcases getElem?_append_singleton hw with hw | ⟨-, hw⟩
    · exact absurd hw (hop i e timed false)
    · simp only [Task.waitForClaudeMessages.injEq] at hw
      obtain ⟨rfl, -, hw⟩ := hw
      exact hw.symm
  | resumeWait =>
    obtain ⟨-, hw₀⟩ := getElem?_set_of_ne (by simpa [finish] using hw) (by simp)
    obtain ⟨rfl, -⟩ := hinv.waiter i e timed false hw₀
    simp [finish]
  | timeout => exact hc i e timed (getElem?_set_of_ne hw (by simp)).2
  | requestNoHandler req =>
    obtain ⟨w, hw₀, hww⟩ := getElem?_tasks_setEvent_wait _ hw
    obtain rfl := (Bool.or_eq_false_iff.1 hww.symm).1
    replace hw₀ : s.tasks[i]? = some (Task.waitForClaudeMessages e timed false) := by
      simpa using hw₀
    obtain ⟨rfl, -⟩ := hinv.waiter i e timed false hw₀
    simp [hc i _ timed hw₀, Nat.ne_of_lt hlt]
  | handlerReturns j out req handler e₀ ht he₀ =>
    obtain ⟨w, hw₀, hww⟩ := getElem?_tasks_setEvent_wait _ hw
    obtain rfl := (Bool.or_eq_false_iff.1 hww.symm).1
    obtain ⟨-, hw₁⟩ := getElem?_set_of_ne (by simpa [finish] using hw₀) (by simp)
    obtain ⟨rfl, -⟩ := hinv.waiter i e timed false hw₁
    simp [finish, hc i _ timed hw₁, Ne.symm (hne _ _ he₀)]
  | requestSuspend =>
    simpa using hc i e timed (getElem?_append_of_ne (by simpa using hw) (by simp))
  | getToolResultSuspend => exact hc i e timed (getElem?_append_of_ne hw (by simp))
  | resumeToolResult =>
    exact hc i e timed (getElem?_set_of_ne (by simpa [finish, popToolResult] using hw) (by simp)).2
  | getToolResultReady | getRegisteredTools | getAndConsumeMessages | sendToClaude =>
    simpa [popToolResult] using hc i e timed (by simpa [popToolResult] using hw)

end ClaudeMessageReceiver

open ClaudeMessageReceiver

/-! ## Runs -/

/-- A run of steps other than init from a state that meets `BufferInv` moves messages as
`step_buffers` says, step after step, and keeps `BufferInv`. -/
theorem Run.buffers {s s' : ClaudeMessageReceiver Msg H} {ops : List (Op Msg)}
    {outs : List (Out Msg)} (hrun : Run (fun _ op => op ≠ .initClaudeReceiver) s ops s' outs)
    (hinv : BufferInv s) :
    outs.flatMap Out.inbound ++ s'.claudeMessages = s.claudeMessages ++ ops.flatMap Op.inbound ∧
    outs.flatMap Out.outbound ++ s'.claudeOutgoing = s.claudeOutgoing ++ ops.flatMap Op.outbound ∧
    BufferInv s' := by
  induction hrun with
  | nil => simpa using hinv
  | cons hop hst _ ih =>
    obtain ⟨-, -, hin, hout⟩ := step_buffers hinv.initialised hop hst
    obtain ⟨ih₁, ih₂, ih₃⟩ := ih (hinv.step hop hst)
    refine ⟨?_, ?_, ih₃⟩
    · rw [List.flatMap_cons, List.flatMap_cons, List.append_assoc, ih₁, ← List.append_assoc, hin,
        List.append_assoc]
    · rw [List.flatMap_cons, List.flatMap_cons, List.append_assoc, ih₂, ← List.append_assoc, hout,
        List.append_assoc]

/-- Every state reached through steps that `SingleReader` admits meets `ReaderInv`. -/
theorem Reachable.readerInv {s : ClaudeMessageReceiver Msg H} (h : Reachable SingleReader s) :
    ReaderInv s := by
  induction h with
  | init s ht => exact ⟨BufferInv.init s, fun i e t w hi => by simp [ht] at hi⟩
  | step _ hop hst ih => exact ih.step hop hst

/-- **The message buffers.**  Over every run after `init_claude_receiver` of steps other than
another init: the batches returned on the inbound side, followed by the inbound buffer, are
the messages received in arrival order, and the same holds on the outbound side; the
readiness event is set iff the inbound buffer is non-empty.  And in every state reached while
one task at a time drains the inbound buffer, a `wait_for_claude_messages` without a timeout
that returns, at once or on resumption, returns a non-empty batch. -/
theorem claude_message_buffers :
    (∀ (s₀ s : ClaudeMessageReceiver Msg H) (ops : List (Op Msg)) (outs : List (Out Msg)),
      Run (fun _ op => op ≠ .initClaudeReceiver) s₀.initClaudeReceiver ops s outs →
      outs.flatMap Out.inbound ++ s.claudeMessages = ops.flatMap Op.inbound ∧
      outs.flatMap Out.outbound ++ s.claudeOutgoing = ops.flatMap Op.outbound ∧
      (s.isSet s.claudeMessageEvent = true ↔ s.claudeMessages ≠ [])) ∧
    (∀ s : ClaudeMessageReceiver Msg H, Reachable SingleReader s →
      ∀ (op : Op Msg) (s' : ClaudeMessageReceiver Msg H) (batch : List Msg),
        SingleReader s op → s.step op = some (.ok (s', .messages batch)) → UntimedWait s op →
        batch ≠ []) := by
  refine ⟨fun s₀ s ops outs hrun => ?_, fun s hs op s' batch hop h hu => ?_⟩
  · obtain ⟨h₁, h₂, h₃⟩ := hrun.buffers (BufferInv.init s₀)
    exact ⟨by simpa using h₁, by simpa using h₂, h₃.ready⟩
  · exact hs.readerInv.untimed_nonempty (by rintro rfl; exact hop) h hu

/-- After `init_claude_receiver()`: messages `"a"` and `"b"` from Claude, `"x"` to Claude, a
`get_claude_messages()`, a message `"c"` and a `get_and_consume_messages()`; and, with `"m"`
delivered, a `wait_for_claude_messages()` without a timeout that returns at once. -/
theorem claude_message_buffers_run :
    let s₀ : ClaudeMessageReceiver String Unit := .new ⟨0, []⟩ (fun _ => none)
    let s₁ := s₀.initClaudeReceiver.receiveClaudeMessage "a"
    let s₂ := s₁.receiveClaudeMessage "b"
    let s₃ := s₂.sendToClaude "x"
    let s₄ := s₃.getClaudeMessages.2
    let s₅ := s₄.receiveClaudeMessage "c"
    let s₆ := s₅.getAndConsumeMessages.2
    let ops : List (Op String) := [.receiveClaudeMessage "a", .receiveClaudeMessage "b",
      .sendToClaude "x", .getClaudeMessages, .receiveClaudeMessage "c", .getAndConsumeMessages]
    let outs : List (Out String) :=
      [.none, .none, .none, .messages ["a", "b"], .none, .outgoing ["x"]]
    let t := s₀.initClaudeReceiver.receiveClaudeMessage "m"
    Run (fun _ op => op ≠ .initClaudeReceiver) s₀.initClaudeReceiver ops s₆ outs ∧
      (outs.flatMap Out.inbound ++ s₆.claudeMessages = ops.flatMap Op.inbound ∧
        outs.flatMap Out.outbound ++ s₆.claudeOutgoing = ops.flatMap Op.outbound ∧
        (s₆.isSet s₆.claudeMessageEvent = true ↔ s₆.claudeMessages ≠ [])) ∧
      Reachable SingleReader t ∧ SingleReader t (.waitForClaudeMessages false) ∧
      t.step (.waitForClaudeMessages false) =
        some (.ok (t.takeClaudeMessages.2, .messages ["m"])) ∧
      UntimedWait t (.waitForClaudeMessages false) ∧ ["m"] ≠ [] := by
  intro s₀ s₁ s₂ s₃ s₄ s₅ s₆ ops outs t
  have hrun : Run (fun _ op => op ≠ .initClaudeReceiver) s₀.initClaudeReceiver ops s₆ outs :=
    .cons nofun (rfl : s₀.initClaudeReceiver.step (.receiveClaudeMessage "a") =
      some (.ok (s₁, .none)))
    (.cons nofun (rfl : s₁.step (.receiveClaudeMessage "b") = some (.ok (s₂, .none)))
    (.cons nofun (rfl : s₂.step (.sendToClaude "x") = some (.ok (s₃, .none)))
    (.cons nofun (rfl : s₃.step .getClaudeMessages = some (.ok (s₄, .messages ["a", "b"])))
    (.cons nofun (rfl : s₄.step (.receiveClaudeMessage "c") = some (.ok (s₅, .none)))
    (.cons nofun (rfl : s₅.step .getAndConsumeMessages = some (.ok (s₆, .outgoing ["x"])))
      (.nil s₆))))))
  have hop : SingleReader s₀.initClaudeReceiver (.receiveClaudeMessage "m") := trivial
  have ht : Reachable SingleReader t := .step (.init _ rfl) hop
    (rfl : s₀.initClaudeReceiver.step (.receiveClaudeMessage "m") = some (.ok (t, .none)))
  have hsr : SingleReader t (.waitForClaudeMessages false) := by
    simp [SingleReader, show t.tasks = [] from rfl]
  have hw : t.step (.waitForClaudeMessages false) =
      some (.ok (t.takeClaudeMessages.2, .messages ["m"])) := rfl
  exact ⟨hrun, claude_message_buffers.1 s₀ s₆ ops outs hrun, ht, hsr, hw, .inl rfl,
    claude_message_buffers.2 t ht _ _ _ hsr hw (.inl rfl)⟩

/-- Every state reached through steps that `SingleReader` admits meets `WaitClear`. -/
theorem Reachable.waitClear {s : ClaudeMessageReceiver Msg H} (h : Reachable SingleReader s) :
    WaitClear s := by
  induction h with
  | init s ht => exact fun i e t hi => by simp [ht] at hi
  | step hs hop hst ih => exact ih.step hs.readerInv hop hst

/-- **No lost wake-up on the inbound side.**  In every state reached while one task at a time
drains the inbound buffer, a suspended `wait_for_claude_messages` not yet woken is woken by
the next `receive_claude_message(m)`, and on resuming returns exactly `[m]`. -/
theorem waiter_woken_by_message (s : ClaudeMessageReceiver Msg H) (hs : Reachable SingleReader s)
    {i e : Nat} {timed : Bool} (hi : s.tasks[i]? = some (Task.waitForClaudeMessages e timed false))
    (m : Msg) :
    ∃ s', s.step (.receiveClaudeMessage m) = some (.ok (s', .none)) ∧
      s'.tasks[i]? = some (Task.waitForClaudeMessages e timed true) ∧
      ∃ s'', s'.step (.resume i) = some (.ok (s'', .messages [m])) := by
  have hinv := hs.readerInv
  obtain ⟨hini, -, -, hready⟩ := hinv.buffers
  obtain ⟨rfl, -, -⟩ := hinv.waiter i e timed false hi
  have hclear := hs.waitClear i _ timed hi
  -- the waiter found the event clear, so the buffer is empty
  have hempty : s.claudeMessages = [] := by simpa [hclear] using hready
  let s' := { s with claudeMessages := s.claudeMessages ++ [m] }.setEvent s.claudeMessageEvent
  have hwoken : s'.tasks[i]? = some (Task.waitForClaudeMessages s.claudeMessageEvent timed true) := by
    simp [s', hclear, hi, Task.wake]
  exact ⟨s', by simp [s', step, receiveClaudeMessage, hini], hwoken,
    ((s'.finish i).takeClaudeMessages).2, by simp only [step, hwoken]; simp [finish, s', hempty]⟩

/-- After `init_claude_receiver()`, a `wait_for_claude_messages()` without a timeout suspends
on the clear message event; delivering `"m"` wakes it and it returns `["m"]`. -/
theorem waiter_woken_by_message_fresh :
    let s₁ : ClaudeMessageReceiver String Unit :=
      (ClaudeMessageReceiver.new ⟨0, []⟩ (fun _ => none)).initClaudeReceiver
    let s₂ : ClaudeMessageReceiver String Unit :=
      { s₁ with tasks := [.waitForClaudeMessages 0 false false] }
    Reachable SingleReader s₂ ∧
      ∃ s', s₂.step (.receiveClaudeMessage "m") = some (.ok (s', .none)) ∧
        s'.tasks[0]? = some (Task.waitForClaudeMessages 0 false true) ∧
        ∃ s'', s'.step (.resume 0) = some (.ok (s'', .messages ["m"])) := by
  intro s₁ s₂
  have h₂ : Reachable SingleReader s₂ :=
    .step (.init _ rfl) (by simp [SingleReader, s₁, ClaudeMessageReceiver.new])
      (rfl : s₁.step (.waitForClaudeMessages false) = some (.ok (s₂, .suspended 0)))
  exact ⟨h₂, waiter_woken_by_message s₂ h₂ rfl "m"⟩

/-- **A timed wait returns.**  In every state reached while one task at a time drains the
inbound buffer, a suspended `wait_for_claude_messages(timeout)` is never left waiting: once
woken it resumes with the inbound buffer; while not woken its timer can fire, and it then
resumes with `[]`, an empty batch rather than an error. -/
theorem timed_wait_returns (s : ClaudeMessageReceiver Msg H) (hs : Reachable SingleReader s)
    {i e : Nat} {woken : Bool}
    (hi : s.tasks[i]? = some (Task.waitForClaudeMessages e true woken)) :
    (woken = true →
      ∃ s', s.step (.resume i) = some (.ok (s', .messages s.claudeMessages))) ∧
    (woken = false → ∃ s₁ s₂, s.step (.timeout i) = some (.ok (s₁, .none)) ∧
      s₁.step (.resume i) = some (.ok (s₂, .messages []))) := by
  refine ⟨fun hw => ?_, fun hw => ?_⟩
  · subst hw
    exact ⟨((s.finish i).takeClaudeMessages).2, by simp only [step, hi]; simp [finish]⟩
  · subst hw
    have hinv := hs.readerInv
    obtain ⟨rfl, -, -⟩ := hinv.waiter i e true false hi
    -- the waiter found the event clear, so the buffer is empty when the timer fires
    have hempty : s.claudeMessages = [] := by
      simpa [hs.waitClear i _ true hi] using hinv.buffers.ready
    obtain ⟨s₁, s₂, h₁, h₂, -⟩ := step_timeout_resume hi
    exact ⟨s₁, s₂, h₁, hempty ▸ h₂⟩

/-- After `init_claude_receiver()`, a `wait_for_claude_messages(timeout)` suspends on the clear
message event; its timer fires and it returns `[]`. -/
theorem timed_wait_returns_fresh :
    let s₁ : ClaudeMessageReceiver String Unit :=
      (ClaudeMessageReceiver.new ⟨0, []⟩ (fun _ => none)).initClaudeReceiver
    let s₂ : ClaudeMessageReceiver String Unit :=
      { s₁ with tasks := [.waitForClaudeMessages 0 true false] }
    Reachable SingleReader s₂ ∧
      ∃ t₁ t₂, s₂.step (.timeout 0) = some (.ok (t₁, .none)) ∧
        t₁.step (.resume 0) = some (.ok (t₂, .messages [])) := by
  intro s₁ s₂
  have h₂ : Reachable SingleReader s₂ :=
    .step (.init _ rfl) (by simp [SingleReader, s₁, ClaudeMessageReceiver.new])
      (rfl : s₁.step (.waitForClaudeMessages true) = some (.ok (s₂, .suspended 0)))
  exact ⟨h₂, (timed_wait_returns s₂ h₂ rfl).2 rfl⟩

/-- **Without one reader at a time, two readers share one batch.**  `claude_message_buffers`
needs `SingleReader` for its last part: from every initialised receiver whose message event is
clear, with two distinct suspended `wait_for_claude_messages()` without a timeout, a message
wakes both, the first resumed returns the buffer with the message, and the second returns
`[]`, although it waited without a timeout. -/
theorem two_waiters_one_batch (s : ClaudeMessageReceiver Msg H) {i j : Nat}
    (hini : s.initialised = true) (hclear : s.isSet s.claudeMessageEvent = false) (hij : i ≠ j)
    (hi : s.tasks[i]? = some (Task.waitForClaudeMessages s.claudeMessageEvent false false))
    (hj : s.tasks[j]? = some (Task.waitForClaudeMessages s.claudeMessageEvent false false))
    (m : Msg) :
    ∃ s₁ s₂ s₃, s.step (.receiveClaudeMessage m) = some (.ok (s₁, .none)) ∧
      s₁.step (.resume i) = some (.ok (s₂, .messages (s.claudeMessages ++ [m]))) ∧
      s₂.step (.resume j) = some (.ok (s₃, .messages [])) := by
  let s₁ := { s with claudeMessages := s.claudeMessages ++ [m] }.setEvent s.claudeMessageEvent
  -- the event was clear, so setting it wakes every waiter on it
  have hwoken : ∀ k : Nat,
      s.tasks[k]? = some (Task.waitForClaudeMessages s.claudeMessageEvent false false) →
      s₁.tasks[k]? = some (Task.waitForClaudeMessages s.claudeMessageEvent false true) :=
    fun k hk => by simp [s₁, hclear, hk, Task.wake]
  let s₂ := (s₁.finish i).takeClaudeMessages.2
  have hj₂ :
      s₂.tasks[j]? = some (Task.waitForClaudeMessages s.claudeMessageEvent false true) := by
    simp [s₂, finish, List.getElem?_set_ne hij, hwoken j hj]
  refine ⟨s₁, s₂, (s₂.finish j).takeClaudeMessages.2,
    by simp [s₁, step, receiveClaudeMessage, hini], ?_, ?_⟩
  · simp only [step, hwoken i hi]
    simp [s₂, finish, s₁]
  · simp only [step, hj₂]
    simp [s₂, finish]

/- After `init_claude_receiver()`, two `wait_for_claude_messages()` without a timeout
suspend; delivering `"m"`, the first returns `["m"]` and the second `[]`. -/
example :
    let s₁ : ClaudeMessageReceiver String Unit :=
      (ClaudeMessageReceiver.new ⟨0, []⟩ (fun _ => none)).initClaudeReceiver
    let s₂ : ClaudeMessageReceiver String Unit :=
      { s₁ with tasks := [.waitForClaudeMessages 0 false false] }
    let s₃ : ClaudeMessageReceiver String Unit :=
      { s₂ with tasks := s₂.tasks ++ [.waitForClaudeMessages 0 false false] }
    Reachable (fun _ _ => True) s₃ ∧
      ∃ t₁ t₂ t₃, s₃.step (.receiveClaudeMessage "m") = some (.ok (t₁, .none)) ∧
        t₁.step (.resume 0) = some (.ok (t₂, .messages ([] ++ ["m"]))) ∧
        t₂.step (.resume 1) = some (.ok (t₃, .messages [])) := by
  intro s₁ s₂ s₃
  have h₂ : Reachable (fun _ _ => True) s₂ := .step (.init _ rfl) trivial
    (rfl : s₁.step (.waitForClaudeMessages false) = some (.ok (s₂, .suspended 0)))
  have h₃ : Reachable (fun _ _ => True) s₃ := .step h₂ trivial
    (rfl : s₂.step (.waitForClaudeMessages false) = some (.ok (s₃, .suspended 1)))
  exact ⟨h₃, two_waiters_one_batch s₃ rfl rfl (by decide) rfl rfl "m"⟩

end ClaudeAgent
