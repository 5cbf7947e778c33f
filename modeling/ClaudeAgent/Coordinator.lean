import ClaudeAgent.Buffers

/-!
# The tool coordinator

`request_tool_execution` and `get_tool_result` correlate a tool call with its result through
a rendezvous per `tool_id`: the `asyncio.Event` of `_tool_result_events` and the slot of
`_tool_results`.  The machine of `ClaudeAgent.Receiver` runs both interleaved with each
other, with the message buffers and with the scheduler's completions.

* `Coordinated` — the callers' discipline: a request only for an id with no unconsumed
  earlier request, and one `get_tool_result` per id at a time.
* `CoordInv` — what that discipline keeps: every suspended dispatch has the rendezvous of its
  id, still clear, and is the only dispatch for its id; every suspended fetch waits on the
  rendezvous of its id, is woken iff that rendezvous is set, and is the only fetch for its
  id; distinct ids have distinct rendezvous; a set rendezvous has its result stored.
* `tool_rendezvous_spec` — no step raises; a suspended `get_tool_result(id)` is released
  only by the resolve of the dispatch for `id`, which stores that dispatch's result, and that
  resolve does release it (`Reachable.release`); until the fetch resumes that result stays,
  and it is what the fetch returns.
* `Pending` — every rendezvous still clear has the dispatch of its id suspended; with it,
  `tool_calls_progress`: no wake-up is lost, as a waiting fetch waits only on the handler of
  its pending dispatch, whose completion wakes it and hands it the result.
* `duplicate_tool_id_raises` and `two_fetches_one_result` — both halves of `Coordinated` are
  needed: a repeated id makes a resolve raise, and two fetches of one id share one result.
-/

set_option autoImplicit false

namespace ClaudeAgent

namespace ClaudeMessageReceiver

variable {Msg H : Type}

/-! ## The callers' discipline -/

/-- A request for `toolId` was accepted and its result is not consumed yet: its dispatch still
awaits the handler, or its rendezvous is still there. -/
def Unconsumed (s : ClaudeMessageReceiver Msg H) (toolId : String) : Prop :=
  (s.toolResultEvents toolId).isSome ∨
    ∃ (i : Nat) (req : ToolRequest) (handler : ToolHandler H),
      s.tasks[i]? = some (Task.requestToolExecution req handler) ∧ req.toolId = toolId

/-- A `get_tool_result(toolId)` is suspended. -/
def Fetching (s : ClaudeMessageReceiver Msg H) (toolId : String) : Prop :=
  ∃ (i e : Nat) (woken : Bool), s.tasks[i]? = some (Task.getToolResult toolId e woken)

/-- The steps admitted after `init_claude_receiver`: a request only for an id with no
unconsumed earlier request, a `get_tool_result` only for an id no other call awaits, and
every other call and completion at any time. -/
def Coordinated (s : ClaudeMessageReceiver Msg H) : Op Msg → Prop
  | .initClaudeReceiver => False
  | .requestToolExecution req => ¬ Unconsumed s req.toolId
  | .getToolResult toolId => ¬ Fetching s toolId
  | _ => True

/-- A request the discipline admits is for an id with no rendezvous and no suspended
dispatch. -/
theorem Coordinated.request {s : ClaudeMessageReceiver Msg H} {req : ToolRequest}
    (hop : Coordinated s (.requestToolExecution req)) :
    s.toolResultEvents req.toolId = none ∧
      ∀ (j : Nat) (r : ToolRequest) (h : ToolHandler H),
        s.tasks[j]? = some (Task.requestToolExecution r h) → r.toolId ≠ req.toolId :=
  ⟨Option.not_isSome_iff_eq_none.1 fun h => hop (.inl h),
    fun j r h hj hr => hop (.inr ⟨j, r, h, hj, hr⟩)⟩

/-! ## The invariant -/

/-- The invariant of the rendezvous under `Coordinated`. -/
structure CoordInv (s : ClaudeMessageReceiver Msg H) : Prop where
  buffers : BufferInv s
  event_lt : ∀ (x : String) (e : Nat), s.toolResultEvents x = some e → e < s.events.length
  event_inj : ∀ (x y : String) (e : Nat),
    s.toolResultEvents x = some e → s.toolResultEvents y = some e → x = y
  stored : ∀ (x : String) (e : Nat),
    s.toolResultEvents x = some e → s.isSet e = true → (s.toolResults x).isSome
  dispatch : ∀ (j : Nat) (req : ToolRequest) (handler : ToolHandler H),
    s.tasks[j]? = some (Task.requestToolExecution req handler) →
    (∃ e, s.toolResultEvents req.toolId = some e ∧ s.isSet e = false) ∧
    ∀ (k : Nat) (req' : ToolRequest) (handler' : ToolHandler H),
      s.tasks[k]? = some (Task.requestToolExecution req' handler') → req'.toolId = req.toolId → k = j
  fetch : ∀ (i : Nat) (x : String) (e : Nat) (w : Bool), s.tasks[i]? = some (Task.getToolResult x e w) →
    s.toolResultEvents x = some e ∧ w = s.isSet e ∧
    ∀ (k e' : Nat) (w' : Bool), s.tasks[k]? = some (Task.getToolResult x e' w') → k = i

theorem CoordInv.init (s : ClaudeMessageReceiver Msg H) (ht : s.tasks = []) :
    CoordInv s.initClaudeReceiver where
  buffers := BufferInv.init s
  event_lt := by simp
  event_inj := by simp
  stored := by simp
  dispatch := by simp [ht]
  fetch := by simp [ht]

/-- No dispatch is suspended for an id whose rendezvous, if any, is set. -/
theorem CoordInv.no_dispatch {s : ClaudeMessageReceiver Msg H} (hinv : CoordInv s) {x : String}
    (hx : ∀ e, s.toolResultEvents x = some e → s.isSet e = true) {j : Nat} {req : ToolRequest}
    {handler : ToolHandler H} (hj : s.tasks[j]? = some (Task.requestToolExecution req handler)) :
    req.toolId ≠ x := by
  rintro rfl
  obtain ⟨⟨e, he, hclear⟩, -⟩ := hinv.dispatch j req handler hj
  rw [hx e he] at hclear
  cases hclear

/-- The rendezvous map once the new event `s.events.length` is filed under an id that had
none: that id maps to it, and every other id to what it had, an older event. -/
theorem CoordInv.update_fresh {s : ClaudeMessageReceiver Msg H} (hinv : CoordInv s) {x y : String}
    {e : Nat} (hx : s.toolResultEvents x = none)
    (h : Function.update s.toolResultEvents x (some s.events.length) y = some e) :
    (y = x ∧ e = s.events.length) ∨
      (y ≠ x ∧ s.toolResultEvents y = some e ∧ e < s.events.length) := by
  by_cases hy : y = x
  · subst hy
    simp only [Function.update_same, Option.some.injEq] at h
    exact .inl ⟨rfl, h.symm⟩
  · rw [Function.update_noteq hy] at h
    exact .inr ⟨hy, h, hinv.event_lt y e h⟩

/-- Filing the new event `s.events.length` under an id that had no rendezvous keeps every
rendezvous an existing event and distinct ids on distinct events. -/
theorem CoordInv.fresh_event {s : ClaudeMessageReceiver Msg H} (hinv : CoordInv s) {x : String}
    (hx : s.toolResultEvents x = none) :
    (∀ (y : String) (e : Nat), Function.update s.toolResultEvents x (some s.events.length) y =
      some e → e < s.events.length + 1) ∧
    ∀ (y z : String) (e : Nat), Function.update s.toolResultEvents x (some s.events.length) y =
      some e → Function.update s.toolResultEvents x (some s.events.length) z = some e → y = z := by
  refine ⟨fun y e h => ?_, fun y z e hy hz => ?_⟩
  · rcases hinv.update_fresh hx h with ⟨-, rfl⟩ | ⟨-, -, hlt⟩ <;> omega
  · rcases hinv.update_fresh hx hy with ⟨rfl, rfl⟩ | ⟨-, hrvy, hlt⟩ <;>
      rcases hinv.update_fresh hx hz with ⟨rfl, he⟩ | ⟨-, hrvz, hlt'⟩
    · rfl
    · omega
    · omega
    · exact hinv.event_inj y z e hrvy hrvz

/-- A step that keeps the rendezvous, the results and the flags of the rendezvous, and
creates or changes no dispatch and no fetch, keeps `CoordInv`. -/
theorem CoordInv.of_frame {s s' : ClaudeMessageReceiver Msg H} (hinv : CoordInv s)
    (hb : BufferInv s') (hev : s'.toolResultEvents = s.toolResultEvents)
    (hres : s'.toolResults = s.toolResults) (hlen : s.events.length ≤ s'.events.length)
    (hset : ∀ (x : String) (e : Nat), s.toolResultEvents x = some e → s'.isSet e = s.isSet e)
    (hd : ∀ (j : Nat) (req : ToolRequest) (handler : ToolHandler H),
      s'.tasks[j]? = some (Task.requestToolExecution req handler) →
      s.tasks[j]? = some (Task.requestToolExecution req handler))
    (hf : ∀ (i : Nat) (x : String) (e : Nat) (w : Bool), s'.tasks[i]? = some (Task.getToolResult x e w) →
      s.tasks[i]? = some (Task.getToolResult x e w)) :
    CoordInv s' where
  buffers := hb
  event_lt x e h := by rw [hev] at h; exact Nat.lt_of_lt_of_le (hinv.event_lt x e h) hlen
  event_inj x y e hx hy := by rw [hev] at hx hy; exact hinv.event_inj x y e hx hy
  stored x e h hs := by
    rw [hev] at h
    rw [hres]
    exact hinv.stored x e h (hset x e h ▸ hs)
  dispatch j req handler h := by
    obtain ⟨⟨e, he, hclear⟩, huniq⟩ := hinv.dispatch j req handler (hd _ _ _ h)
    exact ⟨⟨e, hev ▸ he, (hset _ e he).trans hclear⟩,
      fun k r' h' hk hid => huniq k r' h' (hd _ _ _ hk) hid⟩
  fetch i x e w h := by
    obtain ⟨he, hw, huniq⟩ := hinv.fetch i x e w (hf _ _ _ _ h)
    exact ⟨hev ▸ he, hw.trans (hset x e he).symm, fun k e' w' hk => huniq k e' w' (hf _ _ _ _ hk)⟩

/-- A step that pops the result and the rendezvous of `x` and changes no flag, when no
dispatch for `x` is suspended and no fetch for `x` remains, keeps `CoordInv`. -/
theorem CoordInv.of_pop {s s' : ClaudeMessageReceiver Msg H} {x : String} (hinv : CoordInv s)
    (hb : BufferInv s') (hev : s'.toolResultEvents = Function.update s.toolResultEvents x none)
    (hres : s'.toolResults = Function.update s.toolResults x none) (hevents : s'.events = s.events)
    (hnd : ∀ (j : Nat) (req : ToolRequest) (handler : ToolHandler H),
      s.tasks[j]? = some (Task.requestToolExecution req handler) → req.toolId ≠ x)
    (hd : ∀ (j : Nat) (req : ToolRequest) (handler : ToolHandler H),
      s'.tasks[j]? = some (Task.requestToolExecution req handler) →
      s.tasks[j]? = some (Task.requestToolExecution req handler))
    (hf : ∀ (i : Nat) (y : String) (e : Nat) (w : Bool), s'.tasks[i]? = some (Task.getToolResult y e w) →
      y ≠ x ∧ s.tasks[i]? = some (Task.getToolResult y e w)) :
    CoordInv s' := by
  have hset : ∀ e, s'.isSet e = s.isSet e := fun e => by simp only [isSet, hevents]
  -- every rendezvous but the one of `x` is as before
  have hrv : ∀ (y : String) (e : Nat), s'.toolResultEvents y = some e →
      y ≠ x ∧ s.toolResultEvents y = some e := by
    intro y e h
    rw [hev] at h
    by_cases hy : y = x
    · subst hy; simp at h
    · rw [Function.update_noteq hy] at h; exact ⟨hy, h⟩
  refine ⟨hb, fun y e h => ?_, fun y z e hy hz => ?_, fun y e h hs => ?_, fun j req handler h => ?_,
    fun i y e w h => ?_⟩
  · exact hevents ▸ hinv.event_lt y e (hrv y e h).2
  · exact hinv.event_inj y z e (hrv y e hy).2 (hrv z e hz).2
  · obtain ⟨hy, h⟩ := hrv y e h
    rw [hres, Function.update_noteq hy]
    exact hinv.stored y e h (hset e ▸ hs)
  · have hj := hd _ _ _ h
    obtain ⟨⟨e, he, hclear⟩, huniq⟩ := hinv.dispatch j req handler hj
    exact ⟨⟨e, by rw [hev, Function.update_noteq (hnd j req handler hj), he], hset e ▸ hclear⟩,
      fun k r' h' hk hid => huniq k r' h' (hd _ _ _ hk) hid⟩
  · obtain ⟨hy, hi⟩ := hf _ _ _ _ h
    obtain ⟨he, hw, huniq⟩ := hinv.fetch i y e w hi
    exact ⟨by rw [hev, Function.update_noteq hy, he], hw.trans (hset e).symm,
      fun k e' w' hk => huniq k e' w' (hf _ _ _ _ hk).2⟩

/-- **Every step that `Coordinated` admits keeps `CoordInv`.** -/
theorem CoordInv.step {s s' : ClaudeMessageReceiver Msg H} {op : Op Msg} {o : Out Msg}
    (hinv : CoordInv s) (hop : Coordinated s op) (h : s.step op = some (.ok (s', o))) :
    CoordInv s' := by
  have hnot : op ≠ .initClaudeReceiver := by rintro rfl; exact hop
  have hb := hinv.buffers.step hnot h
  have hne := hinv.buffers.toolEvent_ne
  have hspec := step_spec hinv.buffers.initialised hnot h
  clear h
  cases hspec with
  | receiveClaudeMessage m =>
    refine hinv.of_frame hb rfl rfl (by simp) (fun x e he => by simp [hne x e he])
      (fun j req handler hj => by simpa using getElem?_tasks_setEvent_requestToolExecution _ hj)
      (fun i x e w hi => ?_)
    obtain ⟨w₀, hi₀, rfl⟩ := getElem?_tasks_setEvent_getToolResult _ hi
    simpa [beq_false_of_ne (hne x e (hinv.fetch i x e w₀ hi₀).1)] using hi₀
  | getClaudeMessages | waitReady =>
    exact hinv.of_frame hb rfl rfl (by simp) (fun x e he => by simp [hne x e he])
      (fun _ _ _ hj => hj) (fun _ _ _ _ hi => hi)
  | resumeWait i =>
    exact hinv.of_frame hb rfl rfl (by simp [finish]) (fun x e he => by simp [finish, hne x e he])
      (fun _ _ _ hj => (getElem?_set_of_ne hj (by simp)).2)
      (fun _ _ _ _ hk => (getElem?_set_of_ne hk (by simp)).2)
  | timeout i =>
    exact hinv.of_frame hb rfl rfl le_rfl (fun _ _ _ => rfl)
      (fun _ _ _ hj => (getElem?_set_of_ne hj (by simp)).2)
      (fun _ _ _ _ hk => (getElem?_set_of_ne hk (by simp)).2)
  | waitSuspend timed =>
    exact hinv.of_frame hb rfl rfl le_rfl (fun _ _ _ => rfl)
      (fun _ _ _ hj => getElem?_append_of_ne hj (by simp))
      (fun _ _ _ _ hk => getElem?_append_of_ne hk (by simp))
  | getAndConsumeMessages | sendToClaude =>
    exact hinv.of_frame hb rfl rfl le_rfl (fun _ _ _ => rfl) (fun _ _ _ hj => hj)
      (fun _ _ _ _ hi => hi)
  | getRegisteredTools =>
    exact hinv.of_frame hb (by simp) (by simp) (by simp) (fun _ _ _ => by simp)
      (fun _ _ _ hj => by simpa using hj) (fun _ _ _ _ hi => by simpa using hi)
  | getToolResultReady x hready =>
    exact hinv.of_pop hb rfl rfl rfl (fun _ _ _ hj => hinv.no_dispatch hready hj)
      (fun _ _ _ hj => hj) (fun i y e w hi => ⟨by rintro rfl; exact hop ⟨i, e, w, hi⟩, hi⟩)
  | resumeToolResult i x e ht =>
    obtain ⟨he, hw, huniq⟩ := hinv.fetch i x e true ht
    refine hinv.of_pop hb rfl rfl rfl
      (fun _ _ _ hj => hinv.no_dispatch (fun e' he' => by rw [he] at he'; cases he'; exact hw.symm) hj)
      (fun _ _ _ hj => (getElem?_set_of_ne hj (by simp)).2) (fun k y e' w hk => ?_)
    obtain ⟨hik, hk₀⟩ : i ≠ k ∧ s.tasks[k]? = some (Task.getToolResult y e' w) :=
      getElem?_set_of_ne hk (by simp)
    exact ⟨by rintro rfl; exact hik (huniq k e' w hk₀).symm, hk₀⟩
  | getToolResultSuspend x e he hclear =>
    have hnf : ∀ (k e' : Nat) (w' : Bool), s.tasks[k]? ≠ some (Task.getToolResult x e' w') :=
      fun k e' w' hk => hop ⟨k, e', w', hk⟩
    refine ⟨hb, hinv.event_lt, hinv.event_inj, hinv.stored, fun j req handler hj => ?_,
      fun i y e' w hi => ?_⟩
    · obtain ⟨hrv, huniq⟩ := hinv.dispatch j req handler (getElem?_append_of_ne hj (by simp))
      exact ⟨hrv, fun k r' h' hk hid => huniq k r' h' (getElem?_append_of_ne hk (by simp)) hid⟩
    · rcases getElem?_append_singleton hi with hi | ⟨hil, hi⟩
      · obtain ⟨hrv, hw, huniq⟩ := hinv.fetch i y e' w hi
        refine ⟨hrv, hw, fun k e'' w' hk => ?_⟩
        rcases getElem?_append_singleton hk with hk | ⟨-, hk⟩
        · exact huniq k e'' w' hk
        · cases hk
          exact absurd hi (hnf i e' w)
      · cases hi
        refine ⟨he, hclear.symm, fun k e'' w' hk => ?_⟩
        rcases getElem?_append_singleton hk with hk | ⟨hkl, -⟩
        · exact absurd hk (hnf k e'' w')
        · exact hkl.trans hil.symm
  | requestSuspend req handler =>
    obtain ⟨hx, hnd⟩ := hop.request
    have hclear : s.isSet s.events.length = false := isSet_of_le _ le_rfl
    refine ⟨hb, fun y e h => by simpa using (hinv.fresh_event hx).1 y e h, (hinv.fresh_event hx).2,
      fun y e h hs => ?_, fun j r h' hj => ?_, fun i y e w hi => ?_⟩
    · rcases hinv.update_fresh hx h with ⟨-, rfl⟩ | ⟨-, hrv, -⟩
      · simp [hclear] at hs
      · simpa using hinv.stored y e hrv (by simpa using hs)
    · rcases getElem?_append_singleton hj with hj | ⟨hjl, hj⟩
      · obtain ⟨⟨e, he, hcl⟩, huniq⟩ := hinv.dispatch j r h' hj
        refine ⟨⟨e, by simp [Function.update_noteq (hnd j r h' hj), he], by simpa using hcl⟩,
          fun k r' h'' hk hid => ?_⟩
        rcases getElem?_append_singleton hk with hk | ⟨-, hk⟩
        · exact huniq k r' h'' hk hid
        · cases hk
          exact absurd hid.symm (hnd j r h' hj)
      · cases hj
        refine ⟨⟨s.events.length, by simp, by simpa using hclear⟩, fun k r' h'' hk hid => ?_⟩
        rcases getElem?_append_singleton hk with hk | ⟨hkl, -⟩
        · exact absurd hid (hnd k r' h'' hk)
        · exact hkl.trans hjl.symm
    · obtain ⟨hrv, hw, huniq⟩ := hinv.fetch i y e w (getElem?_append_of_ne hi (by simp))
      have hy : y ≠ req.toolId := by rintro rfl; rw [hx] at hrv; cases hrv
      exact ⟨by simpa [Function.update_noteq hy] using hrv, by simpa using hw,
        fun k e' w' hk => huniq k e' w' (getElem?_append_of_ne hk (by simp))⟩
  | requestNoHandler req =>
    obtain ⟨hx, hnd⟩ := hop.request
    refine ⟨hb, fun y e h => by simpa using (hinv.fresh_event hx).1 y e h, (hinv.fresh_event hx).2,
      fun y e h hs => ?_, fun j r h' hj => ?_, fun i y e w hi => ?_⟩
    · rcases hinv.update_fresh hx h with ⟨rfl, -⟩ | ⟨hy, hrv, hlt⟩
      · simp
      · simp [Nat.ne_of_lt hlt] at hs
        simpa [Function.update_noteq hy] using hinv.stored y e hrv hs
    · have hj₀ : s.tasks[j]? = some (Task.requestToolExecution r h') := by
        simpa using getElem?_tasks_setEvent_requestToolExecution _ hj
      obtain ⟨⟨e, he, hcl⟩, huniq⟩ := hinv.dispatch j r h' hj₀
      refine ⟨⟨e, by simp [Function.update_noteq (hnd j r h' hj₀), he],
        by simp [Nat.ne_of_lt (hinv.event_lt _ e he), hcl]⟩, fun k r' h'' hk hid => ?_⟩
      exact huniq k r' h'' (by simpa using getElem?_tasks_setEvent_requestToolExecution _ hk) hid
    · obtain ⟨w₀, hi₀, rfl⟩ := getElem?_tasks_setEvent_getToolResult _ hi
      replace hi₀ : s.tasks[i]? = some (Task.getToolResult y e w₀) := by simpa using hi₀
      obtain ⟨hrv, hw, huniq⟩ := hinv.fetch i y e w₀ hi₀
      have hlt := Nat.ne_of_lt (hinv.event_lt y e hrv)
      have hy : y ≠ req.toolId := by rintro rfl; rw [hx] at hrv; cases hrv
      refine ⟨by simpa [Function.update_noteq hy] using hrv, by simp [hlt, hw], fun k e' w' hk => ?_⟩
      obtain ⟨w₁, hk₀, -⟩ := getElem?_tasks_setEvent_getToolResult _ hk
      exact huniq k e' w₁ (by simpa using hk₀)
  | handlerReturns i out req handler e ht he =>
    obtain ⟨⟨e₀, he₀, hclear⟩, huniq⟩ := hinv.dispatch i req handler ht
    rw [he, Option.some.injEq] at he₀
    subst he₀
    have hlt := hinv.event_lt _ e he
    -- the rendezvous of every other id is another event
    have hother : ∀ (y : String) (e' : Nat), s.toolResultEvents y = some e' → y ≠ req.toolId →
        e' ≠ e := fun y e' hy hne' hee => hne' (hinv.event_inj y req.toolId e' hy (hee ▸ he))
    -- a dispatch after the step is one from before, not task `i`
    have hold : ∀ (u : ClaudeMessageReceiver Msg H), u.tasks = s.tasks.set i .done →
        ∀ (k : Nat) (r' : ToolRequest) (h'' : ToolHandler H),
        (u.setEvent e).tasks[k]? = some (Task.requestToolExecution r' h'') →
        i ≠ k ∧ s.tasks[k]? = some (Task.requestToolExecution r' h'') := fun u hu k r' h'' hk =>
      getElem?_set_of_ne (hu ▸ getElem?_tasks_setEvent_requestToolExecution _ hk) (by simp)
    refine ⟨hb, fun y e' h => by simpa [finish] using hinv.event_lt y e' h, hinv.event_inj,
      fun y e' h hs => ?_, fun j r h' hj => ?_, fun k y e' w hk => ?_⟩
    · by_cases hy : y = req.toolId
      · subst hy; simp
      · simp [finish, hother y e' h hy] at hs
        simpa [Function.update_noteq hy] using hinv.stored y e' h hs
    · obtain ⟨hij, hj₀⟩ := hold _ rfl j r h' hj
      have hr : r.toolId ≠ req.toolId := fun hid => hij (huniq j r h' hj₀ hid).symm
      obtain ⟨⟨e₁, he₁, hcl⟩, huniq₁⟩ := hinv.dispatch j r h' hj₀
      exact ⟨⟨e₁, he₁, by simp [finish, hother _ e₁ he₁ hr, hcl]⟩,
        fun k r' h'' hk hid => huniq₁ k r' h'' (hold _ rfl k r' h'' hk).2 hid⟩
    · obtain ⟨w₀, hk₀, rfl⟩ := getElem?_tasks_setEvent_getToolResult _ hk
      obtain ⟨-, hk₁⟩ := getElem?_set_of_ne hk₀ (by simp)
      obtain ⟨hrv, hw, huniq'⟩ := hinv.fetch k y e' w₀ hk₁
      refine ⟨hrv, ?_, fun k' e'' w' hk' => ?_⟩
      · rcases eq_or_ne e' e with rfl | hee
        · simp [finish, hclear, hlt]
        · simp [finish, hee, hw]
      · obtain ⟨w₁, hk'₀, -⟩ := getElem?_tasks_setEvent_getToolResult _ hk'
        exact huniq' k' e'' w₁ (getElem?_set_of_ne hk'₀ (by simp)).2

/-! ## What a suspended `get_tool_result` sees -/

/-- **Only the resolve of its id sets a rendezvous**, and it stores the result of its handler
under that id. -/
theorem CoordInv.set_by_resolve {s s' : ClaudeMessageReceiver Msg H} {op : Op Msg} {o : Out Msg}
    (hinv : CoordInv s) (hop : Coordinated s op) (h : s.step op = some (.ok (s', o))) {x : String}
    {e : Nat} (hx : s.toolResultEvents x = some e) (hclear : s.isSet e = false)
    (hset : s'.isSet e = true) :
    ∃ (j : Nat) (out : Except HandlerError PyValue) (req : ToolRequest) (handler : ToolHandler H),
      op = .handlerReturns j out ∧ s.tasks[j]? = some (Task.requestToolExecution req handler) ∧
      req.toolId = x ∧ s'.toolResults x = some (handlerToolResult x out) := by
  have hnot : op ≠ .initClaudeReceiver := by rintro rfl; exact hop
  have hne := hinv.buffers.toolEvent_ne x e hx
  have hlt := Nat.ne_of_lt (hinv.event_lt x e hx)
  cases step_spec hinv.buffers.initialised hnot h with
  | handlerReturns j out req handler e' ht he =>
    simp only [isSet_setEvent, finish, isSet_mk_events, hclear, Bool.false_or, decide_eq_true_eq] at hset
    obtain ⟨rfl, -⟩ := hset
    obtain rfl := hinv.event_inj _ _ e he hx
    exact ⟨j, out, req, handler, rfl, ht, rfl, by simp⟩
  | _ => simp [finish, popToolResult, hclear, hne, hlt] at hset

/-- A woken `get_tool_result(x)` keeps the result of `x` in place until it resumes: no other
admitted step stores or pops it. -/
theorem CoordInv.toolResults_stay {s s' : ClaudeMessageReceiver Msg H} {op : Op Msg} {o : Out Msg}
    (hinv : CoordInv s) (hop : Coordinated s op) (h : s.step op = some (.ok (s', o))) {i e : Nat}
    {x : String} (ht : s.tasks[i]? = some (Task.getToolResult x e true)) (hi : op ≠ .resume i) :
    s'.toolResults x = s.toolResults x := by
  have hnot : op ≠ .initClaudeReceiver := by rintro rfl; exact hop
  obtain ⟨hx, hw, huniq⟩ := hinv.fetch i x e true ht
  cases step_spec hinv.buffers.initialised hnot h with
  | requestNoHandler req =>
    have hne : x ≠ req.toolId := by rintro rfl; exact hop (.inl (by simp [hx]))
    simp [Function.update_noteq hne]
  | handlerReturns j out req handler e' hj =>
    have hne := hinv.no_dispatch (fun e' he' => by rw [hx] at he'; cases he'; exact hw.symm) hj
    simp [Function.update_noteq (Ne.symm hne)]
  | getToolResultReady y =>
    have hne : x ≠ y := by rintro rfl; exact hop ⟨i, e, true, ht⟩
    simp [popToolResult, Function.update_noteq hne]
  | resumeToolResult j y e' hj =>
    have hne : x ≠ y := by
      rintro rfl
      exact hi (congrArg Op.resume (huniq j e' true hj))
    simp [popToolResult, finish, Function.update_noteq hne]
  | _ => simp [finish, takeClaudeMessages, clearEvent]

/-! ## Progress -/

/-- Every rendezvous still clear has the dispatch of its id suspended, whose completion is
what sets it. -/
def Pending (s : ClaudeMessageReceiver Msg H) : Prop :=
  ∀ (x : String) (e : Nat), s.toolResultEvents x = some e → s.isSet e = false →
    ∃ (j : Nat) (req : ToolRequest) (handler : ToolHandler H),
      s.tasks[j]? = some (Task.requestToolExecution req handler) ∧ req.toolId = x

/-- A rendezvous clear after a step was clear before it, or the step is the request that
created it and suspended on its handler. -/
theorem CoordInv.clear_rendezvous {s s' : ClaudeMessageReceiver Msg H} {op : Op Msg}
    {o : Out Msg} (hinv : CoordInv s) (hop : op ≠ .initClaudeReceiver)
    (h : s.step op = some (.ok (s', o))) {x : String} {e : Nat}
    (hx : s'.toolResultEvents x = some e) (hc : s'.isSet e = false) :
    (s.toolResultEvents x = some e ∧ s.isSet e = false) ∨
      ∃ (req : ToolRequest) (handler : ToolHandler H), op = .requestToolExecution req ∧
        req.toolId = x ∧ s'.tasks[s.tasks.length]? = some (Task.requestToolExecution req handler) := by
  have hne := hinv.buffers.toolEvent_ne
  cases step_spec hinv.buffers.initialised hop h with
  | receiveClaudeMessage => exact .inl ⟨hx, by simpa [hne x e hx] using hc⟩
  | handlerReturns =>
    simp only [isSet_setEvent, Bool.or_eq_false_iff] at hc
    exact .inl ⟨hx, by simpa [finish] using hc.1⟩
  | getClaudeMessages | waitReady | resumeWait =>
    exact .inl ⟨hx, by simpa [finish, hne x e hx] using hc⟩
  | getToolResultReady y | resumeToolResult _ y =>
    have hy : x ≠ y := by rintro rfl; simp [popToolResult] at hx
    exact .inl ⟨by simpa [popToolResult, finish, hy] using hx, hc⟩
  | requestNoHandler req =>
    by_cases hy : x = req.toolId
    · subst hy
      simp at hx
      simp [← hx] at hc
    · replace hx : s.toolResultEvents x = some e := by simpa [hy] using hx
      exact .inl ⟨hx, by simpa [Nat.ne_of_lt (hinv.event_lt x e hx)] using hc⟩
  | requestSuspend req handler =>
    by_cases hy : x = req.toolId
    · exact .inr ⟨req, handler, rfl, hy.symm, by simp⟩
    · exact .inl ⟨by simpa [hy] using hx, by simpa using hc⟩
  | getRegisteredTools => exact .inl ⟨by simpa using hx, by simpa using hc⟩
  | waitSuspend | getToolResultSuspend | timeout | getAndConsumeMessages | sendToClaude =>
    exact .inl ⟨hx, hc⟩

/-- Every step that `Coordinated` admits keeps `Pending`. -/
theorem Pending.step {s s' : ClaudeMessageReceiver Msg H} {op : Op Msg} {o : Out Msg}
    (hp : Pending s) (hinv : CoordInv s) (hop : Coordinated s op)
    (h : s.step op = some (.ok (s', o))) : Pending s' := by
  have hnot : op ≠ .initClaudeReceiver := by rintro rfl; exact hop
  intro x e hx hc
  rcases hinv.clear_rendezvous hnot h hx hc with ⟨hx₀, hc₀⟩ | ⟨req, handler, -, rfl, hj⟩
  · obtain ⟨j, req, handler, hj, rfl⟩ := hp _ e hx₀ hc₀
    refine ⟨j, req, handler, step_keeps_dispatch hinv.buffers.initialised h hj ?_, rfl⟩
    -- completing that dispatch would set the rendezvous
    rintro out rfl
    obtain ⟨req', handler', e', hj', he', -, rfl⟩ := step_handlerReturns_eq_ok s h
    rw [hj, Option.some.injEq, Task.requestToolExecution.injEq] at hj'
    obtain ⟨rfl, rfl⟩ := hj'
    rw [hx₀, Option.some.injEq] at he'
    subst he'
    simp [finish, hinv.event_lt _ e hx₀] at hc
  · exact ⟨s.tasks.length, req, handler, hj, rfl⟩

end ClaudeMessageReceiver

open ClaudeMessageReceiver

variable {Msg H : Type}

/-! ## Runs -/

/-- A woken `get_tool_result` and the result it returns stay as they are over every admitted run
that does not resume it. -/
theorem Run.woken_fetch {s s' : ClaudeMessageReceiver Msg H} {ops : List (Op Msg)}
    {outs : List (Out Msg)} (hrun : Run Coordinated s ops s' outs) (hinv : CoordInv s) {i e : Nat}
    {x : String} {r : ToolResult} (hres : Op.resume i ∉ ops)
    (ht : s.tasks[i]? = some (Task.getToolResult x e true)) (hr : s.toolResults x = some r) :
    s'.tasks[i]? = some (Task.getToolResult x e true) ∧ s'.toolResults x = some r := by
  induction hrun with
  | nil => exact ⟨ht, hr⟩
  | @cons _ _ _ op _ _ _ hop hst _ ih =>
    have hi : op ≠ .resume i := fun h => hres (h ▸ List.mem_cons_self _ _)
    have hk : op.task ≠ some i := by
      intro hk
      cases op <;> simp only [Op.task, Option.some.injEq, reduceCtorEq] at hk <;> subst hk
      · simp [step, ht] at hst
      · simp [step, ht] at hst
      · exact hi rfl
    refine ih (hinv.step hop hst) (fun h => hres (List.mem_cons_of_mem _ h)) ?_
      (by rw [hinv.toolResults_stay hop hst ht hi, hr])
    rcases step_getElem?_tasks hinv.buffers.initialised hst hk ht with h | ⟨e', h⟩
    · exact h
    · simpa [Task.wake] using h

/-- Every state reached through admitted steps meets `CoordInv`. -/
theorem Reachable.coordInv {s : ClaudeMessageReceiver Msg H} (h : Reachable Coordinated s) :
    CoordInv s := by
  induction h with
  | init s ht => exact CoordInv.init s ht
  | step _ hop hst ih => exact ih.step hop hst

/-- Every state reached through admitted steps meets `Pending`. -/
theorem Reachable.pending {s : ClaudeMessageReceiver Msg H} (h : Reachable Coordinated s) :
    Pending s := by
  induction h with
  | init s ht => exact fun x e hx => by simp at hx
  | step hs hop hst ih => exact ih.step hs.coordInv hop hst

/-- In every state reached under the discipline, a fetch not yet woken is released by the
resolve of the pending dispatch for its id, whatever the handler does, and on resuming it
returns that dispatch's classified result. -/
theorem Reachable.release {s : ClaudeMessageReceiver Msg H} (hs : Reachable Coordinated s)
    {i : Nat} {x : String} {e : Nat} (hi : s.tasks[i]? = some (Task.getToolResult x e false)) :
    ∃ (j : Nat) (req : ToolRequest) (handler : ToolHandler H),
      s.tasks[j]? = some (Task.requestToolExecution req handler) ∧ req.toolId = x ∧
      ∀ out : Except HandlerError PyValue, ∃ s',
        s.step (.handlerReturns j out) = some (.ok (s', .none)) ∧
        s'.tasks[i]? = some (Task.getToolResult x e true) ∧
        ∃ s'', s'.step (.resume i) = some (.ok (s'', .toolResult (handlerToolResult x out))) := by
  obtain ⟨hx, hw, -⟩ := hs.coordInv.fetch i x e false hi
  obtain ⟨j, req, handler, hj, rfl⟩ := hs.pending x e hx hw.symm
  refine ⟨j, req, handler, hj, rfl, fun out => ?_⟩
  obtain ⟨s', hs', hres, hwake⟩ := step_handlerReturns s out hj hx
  have hi' := hwake i req.toolId hi hw.symm
  exact ⟨s', hs', hi', ((s'.finish i).popToolResult req.toolId).2,
    by simp [ClaudeMessageReceiver.step, hi', popToolResult, finish, hres]⟩

/-- **No lost wake-up.**  In every state reached from `init_claude_receiver` under the
callers' discipline: a suspended dispatch completes without raising, whatever its handler
does; a suspended `get_tool_result(x)` not yet woken waits only on the handler of the dispatch
for `x`, which is still suspended, and when that handler returns, whatever it does, the fetch
is woken and then returns that handler's classified result; and a woken fetch can resume. -/
theorem tool_calls_progress (s : ClaudeMessageReceiver Msg H) (hs : Reachable Coordinated s) :
    (∀ (j : Nat) (req : ToolRequest) (handler : ToolHandler H) (out : Except HandlerError PyValue),
      s.tasks[j]? = some (Task.requestToolExecution req handler) →
      ∃ s', s.step (.handlerReturns j out) = some (.ok (s', .none))) ∧
    (∀ (i : Nat) (x : String) (e : Nat), s.tasks[i]? = some (Task.getToolResult x e false) →
      ∃ (j : Nat) (req : ToolRequest) (handler : ToolHandler H),
        s.tasks[j]? = some (Task.requestToolExecution req handler) ∧ req.toolId = x ∧
        ∀ out : Except HandlerError PyValue, ∃ s',
          s.step (.handlerReturns j out) = some (.ok (s', .none)) ∧
          s'.tasks[i]? = some (Task.getToolResult x e true) ∧
          ∃ s'', s'.step (.resume i) = some (.ok (s'', .toolResult (handlerToolResult x out)))) ∧
    (∀ (i : Nat) (x : String) (e : Nat), s.tasks[i]? = some (Task.getToolResult x e true) →
      ∃ (r : ToolResult) (s' : ClaudeMessageReceiver Msg H),
        s.step (.resume i) = some (.ok (s', .toolResult r))) := by
  have hinv := hs.coordInv
  refine ⟨fun j req handler out hj => ?_, fun i x e hi => ?_, fun i x e hi => ?_⟩
  · obtain ⟨⟨e, he, -⟩, -⟩ := hinv.dispatch j req handler hj
    obtain ⟨s', hs', -⟩ := step_handlerReturns s out hj he
    exact ⟨s', hs'⟩
  · exact hs.release hi
  · exact ⟨_, _, by simp only [step, hi]; rfl⟩

/-- After `init_claude_receiver()` on a workflow with one tool, `Bash`, with a request `t1`
for `Bash` suspended on its handler and a `get_tool_result("t1")` suspended on its
rendezvous: the dispatch of `t1` is pending, and when its handler returns, whatever it
returns, the fetch is woken and returns that result. -/
theorem tool_calls_progress_bash :
    let s₁ : ClaudeMessageReceiver String Unit := (ClaudeMessageReceiver.new
      ⟨0, [some (claudeTool "Bash" .workflow ⟨(), true, .missing, .missing⟩)]⟩
      (fun _ => none)).initClaudeReceiver
    let s₂ : ClaudeMessageReceiver String Unit := { s₁ with
      events := [false, false]
      toolResultEvents := Function.update s₁.toolResultEvents "t1" (some 1)
      tasks := [.requestToolExecution ⟨"t1", "Bash"⟩ ⟨"Bash", .workflow, ()⟩] }
    let s₃ : ClaudeMessageReceiver String Unit :=
      { s₂ with tasks := s₂.tasks ++ [.getToolResult "t1" 1 false] }
    Reachable Coordinated s₃ ∧
      ∃ (j : Nat) (req : ToolRequest) (handler : ToolHandler Unit),
        s₃.tasks[j]? = some (Task.requestToolExecution req handler) ∧ req.toolId = "t1" ∧
        ∀ out : Except HandlerError PyValue, ∃ s',
          s₃.step (.handlerReturns j out) = some (.ok (s', .none)) ∧
          s'.tasks[1]? = some (Task.getToolResult "t1" 1 true) ∧
          ∃ s'', s'.step (.resume 1) =
            some (.ok (s'', .toolResult (handlerToolResult "t1" out))) := by
  intro s₁ s₂ s₃
  have h₂ : Reachable Coordinated s₂ :=
    .step (.init _ rfl) (by simp [Coordinated, Unconsumed, s₁, ClaudeMessageReceiver.new])
      (rfl : s₁.step (.requestToolExecution ⟨"t1", "Bash"⟩) = some (.ok (s₂, .suspended 0)))
  have hreach : Reachable Coordinated s₃ :=
    .step h₂ (by rintro ⟨_ | i, e, w, h⟩ <;> simp [s₂] at h)
      (rfl : s₂.step (.getToolResult "t1") = some (.ok (s₃, .suspended 1)))
  exact ⟨hreach, (tool_calls_progress s₃ hreach).2.1 1 "t1" 1 rfl⟩

/-- Without the discipline a resolve raises.  Two requests with the id `t1` for a registered
tool suspend in their handlers; the second overwrites the rendezvous; the first resolve stores
its result and sets the second's rendezvous; a `get_tool_result("t1")` finds it set, pops the
result and deletes the rendezvous; the second resolve's lookup raises `KeyError("t1")` out of
the signal handler. -/
theorem duplicate_tool_id_raises :
    (ClaudeMessageReceiver.new ⟨0, [some (claudeTool "Bash" .workflow ⟨(), true, .missing, .missing⟩)]⟩
      (fun _ => none) : ClaudeMessageReceiver String Unit).exec
      [.initClaudeReceiver, .requestToolExecution ⟨"t1", "Bash"⟩, .requestToolExecution ⟨"t1", "Bash"⟩,
        .handlerReturns 0 (.ok (.str "a")), .getToolResult "t1", .handlerReturns 1 (.ok (.str "b"))] =
      some (.error ⟨"t1"⟩) := by
  rfl

/-- **Without the discipline, two fetches share one result.**  `Coordinated` admits one
`get_tool_result` per id at a time, and that is needed: from every receiver with a suspended
dispatch for `req.tool_id` whose rendezvous is clear, and two distinct
`get_tool_result(req.tool_id)` suspended on it, the completion of the dispatch wakes both, the
first resumed returns the dispatch's result, and the second returns `Tool result not found`,
although a result was produced for it. -/
theorem two_fetches_one_result (s : ClaudeMessageReceiver Msg H) {k i j e : Nat}
    {req : ToolRequest} {handler : ToolHandler H}
    (hk : s.tasks[k]? = some (Task.requestToolExecution req handler))
    (he : s.toolResultEvents req.toolId = some e) (hclear : s.isSet e = false) (hij : i ≠ j)
    (hi : s.tasks[i]? = some (Task.getToolResult req.toolId e false))
    (hj : s.tasks[j]? = some (Task.getToolResult req.toolId e false))
    (out : Except HandlerError PyValue) :
    ∃ s₁ s₂ s₃, s.step (.handlerReturns k out) = some (.ok (s₁, .none)) ∧
      s₁.step (.resume i) = some (.ok (s₂, .toolResult (handlerToolResult req.toolId out))) ∧
      s₂.step (.resume j) = some (.ok (s₃, .toolResult (notFoundResult req.toolId))) := by
  obtain ⟨s₁, h₁, hres, hwoken⟩ := step_handlerReturns _ out hk he
  let s₂ := ((s₁.finish i).popToolResult req.toolId).2
  have hj₂ : s₂.tasks[j]? = some (Task.getToolResult req.toolId e true) := by
    simp [s₂, popToolResult, finish, List.getElem?_set_ne hij, hwoken j _ hj hclear]
  refine ⟨s₁, s₂, ((s₂.finish j).popToolResult req.toolId).2, h₁, ?_, ?_⟩
  · simp only [step, hwoken i _ hi hclear]
    simp [s₂, popToolResult, finish, hres]
  · simp only [step, hj₂]
    simp [s₂, popToolResult, finish]

/- After `init_claude_receiver()` and a request `t1` for `Bash`, two `get_tool_result("t1")`
suspend; when the handler returns `"a"`, the first returns that result and the second `Tool
result not found`. -/
example :
    let s₁ : ClaudeMessageReceiver String Unit := (ClaudeMessageReceiver.new
      ⟨0, [some (claudeTool "Bash" .workflow ⟨(), true, .missing, .missing⟩)]⟩
      (fun _ => none)).initClaudeReceiver
    let s₂ : ClaudeMessageReceiver String Unit := { s₁ with
      events := [false, false]
      toolResultEvents := Function.update s₁.toolResultEvents "t1" (some 1)
      tasks := [.requestToolExecution ⟨"t1", "Bash"⟩ ⟨"Bash", .workflow, ()⟩] }
    let s₃ : ClaudeMessageReceiver String Unit :=
      { s₂ with tasks := s₂.tasks ++ [.getToolResult "t1" 1 false] }
    let s₄ : ClaudeMessageReceiver String Unit :=
      { s₂ with tasks := s₃.tasks ++ [.getToolResult "t1" 1 false] }
    Reachable (fun _ _ => True) s₄ ∧
      ∃ t₁ t₂ t₃,
        s₄.step (.handlerReturns 0 (.ok (.str "a"))) = some (.ok (t₁, .none)) ∧
        t₁.step (.resume 1) =
          some (.ok (t₂, .toolResult (handlerToolResult "t1" (.ok (.str "a"))))) ∧
        t₂.step (.resume 2) = some (.ok (t₃, .toolResult (notFoundResult "t1"))) := by
  intro s₁ s₂ s₃ s₄
  have h₂ : Reachable (fun _ _ => True) s₂ := .step (.init _ rfl) trivial
    (rfl : s₁.step (.requestToolExecution ⟨"t1", "Bash"⟩) = some (.ok (s₂, .suspended 0)))
  have h₃ : Reachable (fun _ _ => True) s₃ := .step h₂ trivial
    (rfl : s₂.step (.getToolResult "t1") = some (.ok (s₃, .suspended 1)))
  have h₄ : Reachable (fun _ _ => True) s₄ := .step h₃ trivial
    (rfl : s₃.step (.getToolResult "t1") = some (.ok (s₄, .suspended 2)))
  exact ⟨h₄, two_fetches_one_result s₄
    (rfl : s₄.tasks[0]? =
      some (Task.requestToolExecution ⟨"t1", "Bash"⟩ ⟨"Bash", .workflow, ()⟩))
    rfl rfl (by decide) (rfl : s₄.tasks[1]? = some (Task.getToolResult "t1" 1 false))
    (rfl : s₄.tasks[2]? = some (Task.getToolResult "t1" 1 false)) _⟩

end ClaudeAgent
