import ClaudeAgent.Buffers

/-!
# Tool calls of different ids do not interfere

`_tool_results` and `_tool_result_events` are shared by every tool call of the workflow, each
call keyed by its `tool_id`.  The calls of one id are isolated from everything else the
workflow does, under any interleaving and without any calling discipline:

* `Touches x` — the steps that act on the id `x`: `init_claude_receiver()`, a request for
  `x`, `get_tool_result(x)`, the completion of a dispatch for `x` and the resumption of a
  fetch for `x`.
* `RendezvousInv` — what every state reached from `init_claude_receiver()` satisfies, in any
  order of calls: every rendezvous is an existing event other than the message event,
  distinct ids have distinct rendezvous, and a suspended fetch waits on an event that no
  other id holds.
* `SameAt x s s'` — the stored result of `x`, its rendezvous and that rendezvous' flag, and
  every suspended call for `x` are in `s'` as in `s`; `step_sameAt` for one step that does
  not touch `x`, `Run.sameAt` for a run of them.
* `tool_id_isolation` — from every reachable state, every run of steps that do not touch
  `x` leaves all of `x` as it was.
* `KeyedInv` — every stored result is filed under its own `tool_id`; with it,
  `tool_results_never_crossed`: whatever the interleaving, repeated ids included, a
  `get_tool_result(x)` returns a result for `x`.
-/

set_option autoImplicit false

namespace ClaudeAgent

namespace ClaudeMessageReceiver

variable {Msg H : Type}

/-- The steps that act on the calls of the id `x`. -/
def Touches (x : String) (s : ClaudeMessageReceiver Msg H) : Op Msg → Prop
  | .initClaudeReceiver => True
  | .requestToolExecution req => req.toolId = x
  | .getToolResult y => y = x
  | .handlerReturns j _ => ∃ (req : ToolRequest) (handler : ToolHandler H),
      s.tasks[j]? = some (Task.requestToolExecution req handler) ∧ req.toolId = x
  | .resume j => ∃ (e : Nat) (w : Bool), s.tasks[j]? = some (Task.getToolResult x e w)
  | _ => False

/-! ## The rendezvous of every reachable state -/

/-- What every state reached from `init_claude_receiver()` satisfies, whatever the order of
the calls. -/
structure RendezvousInv (s : ClaudeMessageReceiver Msg H) : Prop where
  buffers : BufferInv s
  event_lt : ∀ (x : String) (e : Nat), s.toolResultEvents x = some e → e < s.events.length
  event_inj : ∀ (x y : String) (e : Nat),
    s.toolResultEvents x = some e → s.toolResultEvents y = some e → x = y
  fetch : ∀ (i : Nat) (x : String) (e : Nat) (w : Bool),
    s.tasks[i]? = some (Task.getToolResult x e w) →
    e < s.events.length ∧ e ≠ s.claudeMessageEvent ∧
      ∀ y, s.toolResultEvents y = some e → y = x

/-- `init_claude_receiver()` drops every rendezvous; a fetch suspended before it keeps an
older event. -/
theorem RendezvousInv.init (s : ClaudeMessageReceiver Msg H)
    (hf : ∀ (i : Nat) (x : String) (e : Nat) (w : Bool),
      s.tasks[i]? = some (Task.getToolResult x e w) → e < s.events.length) :
    RendezvousInv s.initClaudeReceiver where
  buffers := BufferInv.init s
  event_lt := by simp
  event_inj := by simp
  fetch i x e w h := by
    have := hf i x e w h
    simp only [initClaudeReceiver_events, List.length_append, List.length_singleton,
      initClaudeReceiver_claudeMessageEvent, initClaudeReceiver_toolResultEvents, reduceCtorEq,
      false_implies, implies_true, and_true]
    omega

/-- A step that creates no rendezvous and no fetch, keeps the events and the message event
keeps `RendezvousInv`. -/
theorem RendezvousInv.of_frame {s s' : ClaudeMessageReceiver Msg H} (hinv : RendezvousInv s)
    (hb : BufferInv s')
    (hev : ∀ (x : String) (e : Nat),
      s'.toolResultEvents x = some e → s.toolResultEvents x = some e)
    (hlen : s'.events.length = s.events.length)
    (hm : s'.claudeMessageEvent = s.claudeMessageEvent)
    (hf : ∀ (i : Nat) (x : String) (e : Nat) (w : Bool),
      s'.tasks[i]? = some (Task.getToolResult x e w) →
      ∃ w₀, s.tasks[i]? = some (Task.getToolResult x e w₀)) :
    RendezvousInv s' where
  buffers := hb
  event_lt x e h := hlen ▸ hinv.event_lt x e (hev x e h)
  event_inj x y e hx hy := hinv.event_inj x y e (hev x e hx) (hev y e hy)
  fetch i x e w h := by
    obtain ⟨w₀, h₀⟩ := hf i x e w h
    obtain ⟨h₁, h₂, h₃⟩ := hinv.fetch i x e w₀ h₀
    exact ⟨hlen ▸ h₁, hm ▸ h₂, fun y hy => h₃ y (hev y e hy)⟩

/-- A request files the new event `s.events.length` under its id, dropping any older
rendezvous of that id. -/
theorem RendezvousInv.of_request {s s' : ClaudeMessageReceiver Msg H} (hinv : RendezvousInv s)
    (y : String) (hb : BufferInv s')
    (hev : s'.toolResultEvents = Function.update s.toolResultEvents y (some s.events.length))
    (hlen : s'.events.length = s.events.length + 1)
    (hm : s'.claudeMessageEvent = s.claudeMessageEvent)
    (hf : ∀ (i : Nat) (x : String) (e : Nat) (w : Bool),
      s'.tasks[i]? = some (Task.getToolResult x e w) →
      ∃ w₀, s.tasks[i]? = some (Task.getToolResult x e w₀)) :
    RendezvousInv s' := by
  -- a rendezvous after the step is the new event, under `y` alone, or an older one
  have hrv : ∀ (x : String) (e : Nat), s'.toolResultEvents x = some e →
      (x = y ∧ e = s.events.length) ∨ (x ≠ y ∧ s.toolResultEvents x = some e) := by
    intro x e h
    rw [hev] at h
    by_cases hx : x = y
    · subst hx
      exact .inl ⟨rfl, by simpa [eq_comm] using h⟩
    · exact .inr ⟨hx, by rwa [Function.update_noteq hx] at h⟩
  refine ⟨hb, fun x e h => ?_, fun x z e hx hz => ?_, fun i x e w h => ?_⟩
  · rcases hrv x e h with ⟨-, rfl⟩ | ⟨-, h⟩
    · omega
    · have := hinv.event_lt x e h; omega
  · rcases hrv x e hx with ⟨rfl, he⟩ | ⟨-, hx⟩ <;>
      rcases hrv z e hz with ⟨rfl, he'⟩ | ⟨-, hz⟩
    · rfl
    · have := hinv.event_lt z e hz; omega
    · have := hinv.event_lt x e hx; omega
    · exact hinv.event_inj x z e hx hz
  · obtain ⟨w₀, h₀⟩ := hf i x e w h
    obtain ⟨h₁, h₂, h₃⟩ := hinv.fetch i x e w₀ h₀
    refine ⟨by omega, hm ▸ h₂, fun z hz => ?_⟩
    rcases hrv z e hz with ⟨-, rfl⟩ | ⟨-, hz⟩
    · exact absurd h₁ (lt_irrefl _)
    · exact h₃ z hz

/-- A fetch that waits on another event than the one set is left as it is. -/
theorem getElem?_tasks_setEvent_fetch (s : ClaudeMessageReceiver Msg H) {e' i e : Nat}
    {x : String} {w : Bool} (h : s.tasks[i]? = some (Task.getToolResult x e w)) (hne : e ≠ e') :
    (s.setEvent e').tasks[i]? = some (Task.getToolResult x e w) := by
  simp only [setEvent_tasks]
  split
  · exact h
  · simp [List.getElem?_map, h, Task.wake, beq_false_of_ne hne]

/-- Every step but `init_claude_receiver()` keeps `RendezvousInv`, in any order of calls. -/
theorem RendezvousInv.step {s s' : ClaudeMessageReceiver Msg H} {op : Op Msg} {o : Out Msg}
    (hinv : RendezvousInv s) (hop : op ≠ .initClaudeReceiver)
    (h : s.step op = some (.ok (s', o))) : RendezvousInv s' := by
  have hb := hinv.buffers.step hop h
  have hm := (step_buffers hinv.buffers.initialised hop h).2.1
  -- a fetch found after `event.set()` was there before
  have hset : ∀ (t : ClaudeMessageReceiver Msg H) (e' i : Nat) (x : String) (e : Nat) (w : Bool),
      (t.setEvent e').tasks[i]? = some (Task.getToolResult x e w) →
      ∃ w₀, t.tasks[i]? = some (Task.getToolResult x e w₀) := fun t e' i x e w h' =>
    (getElem?_tasks_setEvent_getToolResult t h').imp fun _ h => h.1
  cases step_spec hinv.buffers.initialised hop h with
  | receiveClaudeMessage =>
    exact hinv.of_frame hb (fun _ _ h => h) (by simp) hm fun i x e w h' => hset _ _ i x e w h'
  | handlerReturns =>
    refine hinv.of_frame hb (fun _ _ h => by simpa [finish] using h) (by simp [finish]) hm
      fun i x e w h' => ?_
    obtain ⟨w₀, h₀⟩ := hset _ _ i x e w h'
    exact ⟨w₀, (getElem?_set_of_ne (by simpa [finish] using h₀) (by simp)).2⟩
  | getClaudeMessages | waitReady | getAndConsumeMessages | sendToClaude | getRegisteredTools =>
    exact hinv.of_frame hb (fun _ _ h => by simpa using h) (by simp) hm
      fun i x e w h' => ⟨w, by simpa using h'⟩
  | resumeWait | timeout =>
    exact hinv.of_frame hb (fun _ _ h => by simpa [finish] using h) (by simp [finish]) hm
      fun i x e w h' => ⟨w, (getElem?_set_of_ne (by simpa [finish] using h') (by simp)).2⟩
  | waitSuspend =>
    exact hinv.of_frame hb (fun _ _ h => h) rfl hm
      fun i x e w h' => ⟨w, getElem?_append_of_ne h' (by simp)⟩
  | getToolResultReady y =>
    refine hinv.of_frame hb (fun z e h' => ?_) (by simp [popToolResult]) hm
      fun i x e w h' => ⟨w, by simpa [popToolResult] using h'⟩
    by_cases hz : z = y
    · subst hz; simp [popToolResult] at h'
    · simpa [popToolResult, hz] using h'
  | resumeToolResult _ y =>
    refine hinv.of_frame hb (fun z e h' => ?_) (by simp [popToolResult, finish]) hm
      fun i x e w h' => ⟨w, ?_⟩
    · by_cases hz : z = y
      · subst hz; simp [popToolResult] at h'
      · simpa [popToolResult, finish, hz] using h'
    · exact (getElem?_set_of_ne (by simpa [popToolResult, finish] using h') (by simp)).2
  | requestNoHandler req =>
    refine hinv.of_request req.toolId hb rfl (by simp) hm fun i x e w h' => ?_
    simpa using hset _ _ i x e w h'
  | requestSuspend req handler =>
    exact hinv.of_request req.toolId hb rfl (by simp) hm
      fun i x e w h' => ⟨w, getElem?_append_of_ne (by simpa using h') (by simp)⟩
  | getToolResultSuspend y e he hclear =>
    refine ⟨hb, hinv.event_lt, hinv.event_inj, fun i x e' w h' => ?_⟩
    rcases getElem?_append_singleton h' with h₀ | ⟨-, h₀⟩
    · exact hinv.fetch i x e' w h₀
    · simp only [Task.getToolResult.injEq] at h₀
      obtain ⟨rfl, rfl, -⟩ := h₀
      exact ⟨hinv.event_lt x e' he, hinv.buffers.toolEvent_ne x e' he,
        fun z hz => hinv.event_inj z x e' hz he⟩

/-! ## One step that does not touch `x` -/

/-- Everything of the id `x` in `s'` is as in `s`: its stored result, its rendezvous and that
event's flag, and every call for `x` still suspended. -/
structure SameAt (x : String) (s s' : ClaudeMessageReceiver Msg H) : Prop where
  result : s'.toolResults x = s.toolResults x
  rendezvous : s'.toolResultEvents x = s.toolResultEvents x
  flag : ∀ e, s.toolResultEvents x = some e → s'.isSet e = s.isSet e
  dispatch : ∀ (i : Nat) (req : ToolRequest) (handler : ToolHandler H), req.toolId = x →
    s.tasks[i]? = some (Task.requestToolExecution req handler) →
    s'.tasks[i]? = some (Task.requestToolExecution req handler)
  fetch : ∀ (i e : Nat) (w : Bool), s.tasks[i]? = some (Task.getToolResult x e w) →
    s'.tasks[i]? = some (Task.getToolResult x e w)

theorem SameAt.refl (x : String) (s : ClaudeMessageReceiver Msg H) : SameAt x s s :=
  ⟨rfl, rfl, fun _ _ => rfl, fun _ _ _ _ h => h, fun _ _ _ h => h⟩

theorem SameAt.trans {x : String} {s₁ s₂ s₃ : ClaudeMessageReceiver Msg H}
    (h₁ : SameAt x s₁ s₂) (h₂ : SameAt x s₂ s₃) : SameAt x s₁ s₃ where
  result := h₂.result.trans h₁.result
  rendezvous := h₂.rendezvous.trans h₁.rendezvous
  flag e he := (h₂.flag e (h₁.rendezvous ▸ he)).trans (h₁.flag e he)
  dispatch i req handler hx h := h₂.dispatch i req handler hx (h₁.dispatch i req handler hx h)
  fetch i e w h := h₂.fetch i e w (h₁.fetch i e w h)

/-- **One step that does not touch `x` leaves all of `x` as it was**, from every state that
meets `RendezvousInv`: the events it sets or clears are the message event, a rendezvous it
creates, or the rendezvous of another id, and none of them is one that `x` waits on. -/
theorem step_sameAt {s s' : ClaudeMessageReceiver Msg H} {op : Op Msg} {o : Out Msg}
    {x : String} (hinv : RendezvousInv s) (hop : ¬ Touches x s op)
    (h : s.step op = some (.ok (s', o))) : SameAt x s s' := by
  have hop' : op ≠ .initClaudeReceiver := by rintro rfl; exact hop trivial
  have hne := hinv.buffers.toolEvent_ne x
  have hdispatch : ∀ (i : Nat) (req : ToolRequest) (handler : ToolHandler H), req.toolId = x →
      s.tasks[i]? = some (Task.requestToolExecution req handler) →
      s'.tasks[i]? = some (Task.requestToolExecution req handler) := fun i req handler hx hj =>
    step_keeps_dispatch hinv.buffers.initialised h hj fun out hout => by
      subst hout; exact hop ⟨req, handler, hj, hx⟩
  cases step_spec hinv.buffers.initialised hop' h with
  | receiveClaudeMessage =>
    exact ⟨rfl, rfl, fun e he => by simp [hne e he], hdispatch,
      fun i e w hf => getElem?_tasks_setEvent_fetch _ hf (hinv.fetch i x e w hf).2.1⟩
  | getClaudeMessages | waitReady =>
    exact ⟨rfl, rfl, fun e he => by simp [hne e he], hdispatch, fun i e w hf => hf⟩
  | getAndConsumeMessages | sendToClaude =>
    exact ⟨rfl, rfl, fun _ _ => rfl, hdispatch, fun i e w hf => hf⟩
  | getRegisteredTools =>
    exact ⟨by simp, by simp, fun _ _ => by simp, hdispatch, fun i e w hf => by simpa using hf⟩
  | waitSuspend | getToolResultSuspend =>
    exact ⟨rfl, rfl, fun _ _ => rfl, hdispatch,
      fun i e w hf => getElem?_append_singleton_of_some _ hf⟩
  | timeout j e' hj =>
    exact ⟨rfl, rfl, fun _ _ => rfl, hdispatch,
      fun i e w hf => getElem?_set_of_some hj hf (by simp)⟩
  | resumeWait j e' timed hj =>
    exact ⟨rfl, rfl, fun e he => by simp [finish, hne e he], hdispatch,
      fun i e w hf => by simpa [finish] using getElem?_set_of_some hj hf (by simp)⟩
  | requestNoHandler req =>
    have hx : x ≠ req.toolId := fun hx => hop hx.symm
    refine ⟨by simp [Function.update_noteq hx], by simp [Function.update_noteq hx],
      fun e he => ?_, hdispatch, fun i e w hf => ?_⟩
    · have := hinv.event_lt x e he; simp; omega
    · have := (hinv.fetch i x e w hf).1
      exact getElem?_tasks_setEvent_fetch _ (by simpa using hf) (by omega)
  | requestSuspend req handler =>
    have hx : x ≠ req.toolId := fun hx => hop hx.symm
    exact ⟨by simp, by simp [Function.update_noteq hx], fun e he => by simp, hdispatch,
      fun i e w hf => by simpa using getElem?_append_singleton_of_some _ hf⟩
  | getToolResultReady y =>
    have hx : x ≠ y := fun hx => hop hx.symm
    exact ⟨by simp [popToolResult, Function.update_noteq hx],
      by simp [popToolResult, Function.update_noteq hx], fun _ _ => rfl, hdispatch,
      fun i e w hf => by simpa [popToolResult] using hf⟩
  | resumeToolResult j y e' hj =>
    have hx : x ≠ y := by rintro rfl; exact hop ⟨e', true, hj⟩
    exact ⟨by simp [popToolResult, finish, Function.update_noteq hx],
      by simp [popToolResult, finish, Function.update_noteq hx], fun _ _ => rfl, hdispatch,
      fun i e w hf => by
        simpa [popToolResult, finish] using getElem?_set_of_some hj hf (by simp [Ne.symm hx])⟩
  | handlerReturns j out req handler e' hj he' =>
    have hx : x ≠ req.toolId := by rintro rfl; exact hop ⟨req, handler, hj, rfl⟩
    -- the event set is the rendezvous of `req.tool_id`, which `x` never waits on
    have hnot : ∀ e, (s.toolResultEvents x = some e ∨ ∃ (i : Nat) (w : Bool), s.tasks[i]? =
        some (Task.getToolResult x e w)) → e ≠ e' := by
      rintro e (he | ⟨i, w, hf⟩) rfl
      · exact hx (hinv.event_inj _ _ _ he he')
      · exact hx ((hinv.fetch i x e w hf).2.2 _ he').symm
    refine ⟨by simp [finish, Function.update_noteq hx], by simp [finish],
      fun e he => by simp [finish, hnot e (.inl he)], hdispatch, fun i e w hf => ?_⟩
    refine getElem?_tasks_setEvent_fetch _ ?_ (hnot e (.inr ⟨i, w, hf⟩))
    simpa [finish] using getElem?_set_of_some hj hf (by simp)

/-! ## Results are never crossed -/

/-- Every stored result is filed under its own `tool_id`. -/
def KeyedInv (s : ClaudeMessageReceiver Msg H) : Prop :=
  ∀ (x : String) (r : ToolResult), s.toolResults x = some r → r.toolId = x

/-- Filing a result of `x` under `x`, or removing one, keeps `KeyedInv`. -/
theorem KeyedInv.update {s : ClaudeMessageReceiver Msg H} (hinv : KeyedInv s) (x : String)
    {v : Option ToolResult} (hv : ∀ r, v = some r → r.toolId = x) :
    ∀ (y : String) (r : ToolResult), Function.update s.toolResults x v y = some r →
      r.toolId = y := by
  intro y r h
  by_cases hy : y = x
  · subst hy
    exact hv r (by simpa using h)
  · exact hinv y r (by simpa [Function.update_noteq hy] using h)

/-- What `get_tool_result(x)` pops is a result for `x`. -/
theorem KeyedInv.popToolResult {s : ClaudeMessageReceiver Msg H} (hinv : KeyedInv s)
    (x : String) : (s.popToolResult x).1.toolId = x := by
  simp only [ClaudeMessageReceiver.popToolResult]
  cases h : s.toolResults x with
  | none => rfl
  | some r => exact hinv x r h

/-- Every step of an initialised receiver keeps `KeyedInv`: a dispatch stores its result
under the request's id, with that id. -/
theorem KeyedInv.step {s s' : ClaudeMessageReceiver Msg H} {op : Op Msg} {o : Out Msg}
    (hinv : KeyedInv s) (hi : s.initialised = true) (h : s.step op = some (.ok (s', o))) :
    KeyedInv s' := by
  by_cases hop : op = .initClaudeReceiver
  · subst hop
    simp only [ClaudeMessageReceiver.step, Option.some.injEq, Except.ok.injEq,
      Prod.mk.injEq] at h
    obtain ⟨rfl, -⟩ := h
    exact fun x r h => by simp at h
  cases step_spec hi hop h with
  | requestNoHandler req => exact hinv.update _ fun r hr => by cases hr; rfl
  | handlerReturns i out req =>
    exact hinv.update _ fun r hr => by cases hr; exact handlerToolResult_toolId _ _
  | getToolResultReady x => exact hinv.update _ fun r hr => nomatch hr
  | resumeToolResult i x =>
    exact (show KeyedInv (s.finish i) from hinv).update _ fun r hr => nomatch hr
  | _ => simpa [KeyedInv, finish, takeClaudeMessages, clearEvent] using hinv

/-- Under `KeyedInv`, a `get_tool_result(x)` that returns, at once or on resuming, returns a
result for `x`. -/
theorem KeyedInv.answer {s s' : ClaudeMessageReceiver Msg H} {x : String} {r : ToolResult}
    (hinv : KeyedInv s) (hi : s.initialised = true)
    (h : s.step (.getToolResult x) = some (.ok (s', .toolResult r)) ∨
      ∃ i e, s.tasks[i]? = some (Task.getToolResult x e true) ∧
        s.step (.resume i) = some (.ok (s', .toolResult r))) : r.toolId = x := by
  rcases h with h | ⟨i, e, ht, h⟩
  · cases step_spec hi (by simp) h with
    | getToolResultReady => exact hinv.popToolResult x
  · cases step_spec hi (by simp) h with
    | resumeToolResult _ y _ ht' =>
      rw [ht] at ht'
      cases ht'
      exact (show KeyedInv (s.finish i) from hinv).popToolResult x

end ClaudeMessageReceiver

open ClaudeMessageReceiver

variable {Msg H : Type}

/-! ## Runs -/

/-- Every state reached from `init_claude_receiver()` meets `RendezvousInv`, whatever steps
are admitted: a later `init_claude_receiver()` starts it afresh. -/
theorem Reachable.rendezvousInv {adm : ClaudeMessageReceiver Msg H → Op Msg → Prop}
    {s : ClaudeMessageReceiver Msg H} (h : Reachable adm s) : RendezvousInv s := by
  induction h with
  | init s ht => exact RendezvousInv.init s fun i x e w h => by simp [ht] at h
  | @step s s' op o _ _ hst ih =>
    by_cases hop : op = .initClaudeReceiver
    · subst hop
      simp only [ClaudeMessageReceiver.step, Option.some.injEq, Except.ok.injEq,
        Prod.mk.injEq] at hst
      exact hst.1 ▸ RendezvousInv.init s fun i x e w h => (ih.fetch i x e w h).1
    · exact ih.step hop hst

/-- A run of steps that do not touch `x` leaves all of `x` as it was, and keeps
`RendezvousInv`. -/
theorem Run.sameAt {x : String} {s s' : ClaudeMessageReceiver Msg H} {ops : List (Op Msg)}
    {outs : List (Out Msg)} (hrun : Run (fun t op => ¬ Touches x t op) s ops s' outs)
    (hinv : RendezvousInv s) : SameAt x s s' ∧ RendezvousInv s' := by
  induction hrun with
  | nil s => exact ⟨.refl x s, hinv⟩
  | @cons _ _ _ op _ _ _ hop hst _ ih =>
    have hinit : op ≠ .initClaudeReceiver := by rintro rfl; exact hop trivial
    obtain ⟨ih₁, ih₂⟩ := ih (hinv.step hinit hst)
    exact ⟨(step_sameAt hinv hop hst).trans ih₁, ih₂⟩

/-- **Tool calls of different ids do not interfere.**  From every state reached from
`init_claude_receiver()`, under any interleaving, a run of steps none of which touches the id
`x` — requests, fetches, completions and resumptions of other ids, and all the message
traffic — leaves the stored result of `x`, its rendezvous and that event's flag, and every
suspended dispatch and fetch for `x`, as they were. -/
theorem tool_id_isolation {adm : ClaudeMessageReceiver Msg H → Op Msg → Prop} {x : String}
    {s s' : ClaudeMessageReceiver Msg H} {ops : List (Op Msg)} {outs : List (Out Msg)}
    (hs : Reachable adm s) (hrun : Run (fun t op => ¬ Touches x t op) s ops s' outs) :
    SameAt x s s' :=
  (hrun.sameAt hs.rendezvousInv).1

/-- A dispatch and a fetch for `t1` are suspended; a request for `t2`, its completion, which
sets the rendezvous of `t2`, and a message from Claude leave all of `t1` as it was. -/
theorem tool_id_isolation_t2 :
    let s₁ : ClaudeMessageReceiver String Unit := (ClaudeMessageReceiver.new
      ⟨0, [some (claudeTool "Bash" .workflow ⟨(), true, .missing, .missing⟩)]⟩
      (fun _ => none)).initClaudeReceiver
    let bash : ToolHandler Unit := ⟨"Bash", .workflow, ()⟩
    let s₂ : ClaudeMessageReceiver String Unit := { s₁ with
      events := [false, false]
      toolResultEvents := Function.update s₁.toolResultEvents "t1" (some 1)
      tasks := [.requestToolExecution ⟨"t1", "Bash"⟩ bash] }
    let s₃ : ClaudeMessageReceiver String Unit :=
      { s₂ with tasks := s₂.tasks ++ [.getToolResult "t1" 1 false] }
    let s₄ : ClaudeMessageReceiver String Unit := { s₃ with
      events := [false, false, false]
      toolResultEvents := Function.update s₃.toolResultEvents "t2" (some 2)
      tasks := s₃.tasks ++ [.requestToolExecution ⟨"t2", "Bash"⟩ bash] }
    let s₅ : ClaudeMessageReceiver String Unit := { s₄ with
      events := [false, false, true]
      toolResults := Function.update s₄.toolResults "t2"
        (some (handlerToolResult "t2" (.ok (.str "b"))))
      tasks := s₃.tasks ++ [.done] }
    let s₆ : ClaudeMessageReceiver String Unit :=
      { s₅ with claudeMessages := ["hi"], events := [true, false, true] }
    Reachable (fun _ _ => True) s₃ ∧
      Run (fun t op => ¬ Touches "t1" t op) s₃
        [.requestToolExecution ⟨"t2", "Bash"⟩, .handlerReturns 2 (.ok (.str "b")),
          .receiveClaudeMessage "hi"] s₆ [.suspended 2, .none, .none] ∧
      SameAt "t1" s₃ s₆ := by
  intro s₁ bash s₂ s₃ s₄ s₅ s₆
  have h₂ : Reachable (fun _ _ => True) s₂ := .step (.init _ rfl) trivial
    (rfl : s₁.step (.requestToolExecution ⟨"t1", "Bash"⟩) = some (.ok (s₂, .suspended 0)))
  have h₃ : Reachable (fun _ _ => True) s₃ := .step h₂ trivial
    (rfl : s₂.step (.getToolResult "t1") = some (.ok (s₃, .suspended 1)))
  have hadm : ¬ Touches "t1" s₄ (.handlerReturns 2 (.ok (.str "b"))) := by
    simp [Touches, s₄, s₃, s₂]
  have hrun : Run (fun t op => ¬ Touches "t1" t op) s₃
      [.requestToolExecution ⟨"t2", "Bash"⟩, .handlerReturns 2 (.ok (.str "b")),
        .receiveClaudeMessage "hi"] s₆ [.suspended 2, .none, .none] :=
    .cons (by simp [Touches])
      (rfl : s₃.step (.requestToolExecution ⟨"t2", "Bash"⟩) = some (.ok (s₄, .suspended 2)))
      (.cons hadm (rfl : s₄.step (.handlerReturns 2 (.ok (.str "b"))) = some (.ok (s₅, .none)))
        (.cons (by simp [Touches])
          (rfl : s₅.step (.receiveClaudeMessage "hi") = some (.ok (s₆, .none))) (.nil s₆)))
  exact ⟨h₃, hrun, tool_id_isolation h₃ hrun⟩

/-- Every state reached from `init_claude_receiver()` meets `KeyedInv`. -/
theorem Reachable.keyedInv {adm : ClaudeMessageReceiver Msg H → Op Msg → Prop}
    {s : ClaudeMessageReceiver Msg H} (h : Reachable adm s) : KeyedInv s := by
  induction h with
  | init s _ => exact fun x r h => by simp at h
  | step hs _ hst ih => exact ih.step hs.rendezvousInv.buffers.initialised hst

/-- **Results are never crossed between ids.**  In every state reached from
`init_claude_receiver()`, under any interleaving and with repeated ids allowed, every stored
result is filed under its own `tool_id`, and every `get_tool_result(x)` that returns, at once
or on resuming its wait, returns a result whose `tool_id` is `x`. -/
theorem tool_results_never_crossed {adm : ClaudeMessageReceiver Msg H → Op Msg → Prop}
    {s : ClaudeMessageReceiver Msg H} (hs : Reachable adm s) :
    (∀ (x : String) (r : ToolResult), s.toolResults x = some r → r.toolId = x) ∧
    ∀ (x : String) (s' : ClaudeMessageReceiver Msg H) (r : ToolResult),
      (s.step (.getToolResult x) = some (.ok (s', .toolResult r)) ∨
        ∃ i e, s.tasks[i]? = some (Task.getToolResult x e true) ∧
          s.step (.resume i) = some (.ok (s', .toolResult r))) → r.toolId = x :=
  ⟨hs.keyedInv, fun _ _ _ h => hs.keyedInv.answer hs.rendezvousInv.buffers.initialised h⟩

/-- After `init_claude_receiver()`, a request `t1` for `Bash` and its handler returning `"a"`,
the state is reached and its results are keyed. -/
theorem tool_results_never_crossed_bash :
    let s₁ : ClaudeMessageReceiver String Unit := (ClaudeMessageReceiver.new
      ⟨0, [some (claudeTool "Bash" .workflow ⟨(), true, .missing, .missing⟩)]⟩
      (fun _ => none)).initClaudeReceiver
    let s₂ : ClaudeMessageReceiver String Unit := { s₁ with
      events := [false, false]
      toolResultEvents := Function.update s₁.toolResultEvents "t1" (some 1)
      tasks := [.requestToolExecution ⟨"t1", "Bash"⟩ ⟨"Bash", .workflow, ()⟩] }
    let s₃ : ClaudeMessageReceiver String Unit := { s₂ with
      events := [false, true]
      toolResults := Function.update s₂.toolResults "t1"
        (some (handlerToolResult "t1" (.ok (.str "a"))))
      tasks := [.done] }
    Reachable (fun _ _ => True) s₃ ∧
      (∀ (x : String) (r : ToolResult), s₃.toolResults x = some r → r.toolId = x) ∧
      ∀ (x : String) (s' : ClaudeMessageReceiver String Unit) (r : ToolResult),
        (s₃.step (.getToolResult x) = some (.ok (s', .toolResult r)) ∨
          ∃ i e, s₃.tasks[i]? = some (Task.getToolResult x e true) ∧
            s₃.step (.resume i) = some (.ok (s', .toolResult r))) → r.toolId = x := by
  intro s₁ s₂ s₃
  have h₂ : Reachable (fun _ _ => True) s₂ := .step (.init _ rfl) trivial
    (rfl : s₁.step (.requestToolExecution ⟨"t1", "Bash"⟩) = some (.ok (s₂, .suspended 0)))
  have h₃ : Reachable (fun _ _ => True) s₃ := .step h₂ trivial
    (rfl : s₂.step (.handlerReturns 0 (.ok (.str "a"))) = some (.ok (s₃, .none)))
  exact ⟨h₃, tool_results_never_crossed h₃⟩

end ClaudeAgent
