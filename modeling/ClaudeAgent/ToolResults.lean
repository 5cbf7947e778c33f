import ClaudeAgent.Query

/-!
# The results of a dispatch

What `request_tool_execution` stores under `request.tool_id` and what `get_tool_result`
returns, over every run of a fresh instance.

* `step_requestNoHandler` / `step_requestSuspend` — the branch without a handler stores
  exactly one result, under the request's id; the other awaits the registered handler.
* `ResultsInv` — every stored result is well formed, or is the success without a result text
  of a handler that returned `None`; every step keeps it, and every result a step returns
  is of one of these two kinds.
* `Cleared` — neither a rendezvous nor a result for an id; every step but a request for the
  id keeps it (`Cleared.step`, `Run.cleared`), and with it `tool_result_delivered_once`: after
  a `get_tool_result` returns, no later run without a new request for the id hands out or
  stores a result for it.
* `dispatch_tool_results` — the dispatch and its classification, and the data-model invariant
  of every returned result but the one of a handler returning `None`;
  `none_handler_result_ill_formed` is a run in which `get_tool_result` returns that result.
* `requests_dispatch_discovered` — after `init_claude_receiver()` the registry stays the one
  its scan built, and a request awaits the handler that scan found for the tool.
-/

set_option autoImplicit false

namespace ClaudeAgent

namespace ClaudeMessageReceiver

variable {Msg H : Type}

/-! ## One dispatch -/

/-- A request for a tool without a handler stores the failure naming the tool under its id. -/
theorem step_requestNoHandler {s : ClaudeMessageReceiver Msg H} {req : ToolRequest}
    (hi : s.initialised = true) (h : s.getToolRegistry.1.get req.toolName = none) :
    ∃ s', s.step (.requestToolExecution req) = some (.ok (s', .none)) ∧
      s'.toolResults = Function.update s.toolResults req.toolId (some (noHandlerResult req)) := by
  cases hr : s.requestToolExecution req with
  | error err => exact absurd hr (s.requestToolExecution_ne_error req err)
  | ok r =>
    obtain ⟨o, s'⟩ := r
    rcases requestToolExecution_eq_ok s hi hr with ⟨-, rfl, hs'⟩ | ⟨handler, hget, -⟩
    · exact ⟨s', by simp [step, hr, Except.map], by simp [hs', setEvent]⟩
    · rw [h] at hget
      cases hget

/-- A request for a tool with a handler awaits that handler as a new task. -/
theorem step_requestSuspend {s : ClaudeMessageReceiver Msg H} {req : ToolRequest}
    {handler : ToolHandler H} (hi : s.initialised = true)
    (h : s.getToolRegistry.1.get req.toolName = some handler) :
    ∃ s', s.step (.requestToolExecution req) = some (.ok (s', .suspended s.tasks.length)) ∧
      s'.tasks[s.tasks.length]? = some (Task.requestToolExecution req handler) := by
  cases hr : s.requestToolExecution req with
  | error err => exact absurd hr (s.requestToolExecution_ne_error req err)
  | ok r =>
    obtain ⟨o, s'⟩ := r
    rcases requestToolExecution_eq_ok s hi hr with ⟨hget, -, -⟩ | ⟨handler', hget, rfl, rfl⟩
    · rw [h] at hget
      cases hget
    · rw [h, Option.some.injEq] at hget
      subst hget
      exact ⟨_, by simp only [step, hr]; rfl, by simp⟩

/-- After `init_claude_receiver()` no step but another init touches the registry. -/
theorem step_keeps_registry {s s' : ClaudeMessageReceiver Msg H} {op : Op Msg} {o : Out Msg}
    (hi : s.initialised = true) (hh : s.hasToolRegistry = true) (hop : op ≠ .initClaudeReceiver)
    (h : s.step op = some (.ok (s', o))) :
    s'.initialised = true ∧ s'.hasToolRegistry = true ∧ s'.inst = s.inst ∧
      s'.toolRegistries = s.toolRegistries := by
  cases step_spec hi hop h <;> simp [setEvent, takeClaudeMessages, clearEvent, finish, popToolResult, hi, hh]

/-! ## Every stored and every returned result -/

/-- Well formed, or the success without a result text of a handler that returned `None`. -/
theorem handlerToolResult_cases (toolId : String) (out : Except HandlerError PyValue) :
    (handlerToolResult toolId out).WellFormed ∨
      handlerToolResult toolId out = { toolId := (handlerToolResult toolId out).toolId, success := true } := by
  by_cases ho : out = .ok .none
  · subst ho
    exact .inr rfl
  · exact .inl (handlerToolResult_wellFormed toolId out ho)

/-- Every stored result is well formed, or is the success without a result text of a handler
that returned `None`. -/
def ResultsInv (s : ClaudeMessageReceiver Msg H) : Prop :=
  ∀ (x : String) (r : ToolResult), s.toolResults x = some r →
    r.WellFormed ∨ r = { toolId := r.toolId, success := true }

/-- What `get_tool_result` pops is of the same two kinds. -/
theorem ResultsInv.popToolResult {s : ClaudeMessageReceiver Msg H} (hinv : ResultsInv s)
    (x : String) :
    (s.popToolResult x).1.WellFormed ∨
      (s.popToolResult x).1 = { toolId := (s.popToolResult x).1.toolId, success := true } := by
  simp only [ClaudeMessageReceiver.popToolResult]
  cases h : s.toolResults x with
  | none => exact .inl (notFoundResult_wellFormed x)
  | some r => exact hinv x r h

/-- Storing a result of one of the two kinds, or removing one, keeps `ResultsInv`. -/
theorem ResultsInv.update {s : ClaudeMessageReceiver Msg H} (hinv : ResultsInv s) (x : String)
    {v : Option ToolResult} (hv : ∀ r, v = some r → r.WellFormed ∨ r = { toolId := r.toolId, success := true }) :
    ∀ (y : String) (r : ToolResult), Function.update s.toolResults x v y = some r →
      r.WellFormed ∨ r = { toolId := r.toolId, success := true } := by
  intro y r h
  by_cases hy : y = x
  · subst hy
    exact hv r (by simpa using h)
  · exact hinv y r (by simpa [Function.update_noteq hy] using h)

/-- Every step of an initialised receiver keeps `ResultsInv`, and every result it returns is
well formed or the success without a result text of a handler that returned `None`. -/
theorem ResultsInv.step_of_initialised {s s' : ClaudeMessageReceiver Msg H} {op : Op Msg}
    {o : Out Msg} (hinv : ResultsInv s) (hi : s.initialised = true)
    (h : s.step op = some (.ok (s', o))) :
    ResultsInv s' ∧ ∀ r, o = .toolResult r → r.WellFormed ∨ r = { toolId := r.toolId, success := true } := by
  by_cases hop : op = .initClaudeReceiver
  · subst hop
    simp only [step, Option.some.injEq, Except.ok.injEq, Prod.mk.injEq] at h
    obtain ⟨rfl, rfl⟩ := h
    exact ⟨fun x r h => by simp at h, fun r h => nomatch h⟩
  cases step_spec hi hop h with
  | requestNoHandler req =>
    exact ⟨hinv.update _ fun r hr => .inl (Option.some.inj hr ▸ noHandlerResult_wellFormed req),
      fun r h => nomatch h⟩
  | handlerReturns i out req =>
    refine ⟨hinv.update _ fun r hr => ?_, fun r h => nomatch h⟩
    cases hr
    exact handlerToolResult_cases req.toolId out
  | getToolResultReady x =>
    exact ⟨hinv.update _ (fun r hr => nomatch hr),
      fun r h => (Out.toolResult.inj h) ▸ hinv.popToolResult x⟩
  | resumeToolResult i x =>
    refine ⟨(show ResultsInv (s.finish i) from hinv).update _ (fun r hr => nomatch hr),
      fun r h => (Out.toolResult.inj h) ▸ (show ResultsInv (s.finish i) from hinv).popToolResult x⟩
  | _ => exact ⟨by simpa [ResultsInv, finish, takeClaudeMessages, clearEvent] using hinv, fun r h => nomatch h⟩

/-- Every step from a state of a fresh instance keeps `ResultsInv` and returns results of the
two kinds. -/
theorem step_resultsInv {s s' : ClaudeMessageReceiver Msg H} {op : Op Msg} {o : Out Msg}
    (hinv : ResultsInv s) (hs : LazyInv s) (h : s.step op = some (.ok (s', o))) :
    ResultsInv s' ∧ ∀ r, o = .toolResult r → r.WellFormed ∨ r = { toolId := r.toolId, success := true } := by
  cases hi : s.initialised
  · rcases step_of_uninitialised hi (hs.tasks hi) h with ⟨-, h⟩ | ⟨-, rfl, rfl⟩ | ⟨-, rfl, rfl⟩
    · exact ResultsInv.step_of_initialised (fun x r h => by simp at h) rfl h
    · exact ⟨fun x r h => by simp at h, fun r h => nomatch h⟩
    · exact ⟨by simpa [ResultsInv] using hinv, fun r h => nomatch h⟩
  · exact hinv.step_of_initialised hi h

/-! ## Consumed stays consumed -/

/-- The step is not a request for `x`. -/
def NotRequestFor (x : String) (_ : ClaudeMessageReceiver Msg H) : Op Msg → Prop
  | .requestToolExecution req => req.toolId ≠ x
  | _ => True

/-- An initialised receiver with neither a rendezvous nor a stored result for `x`: the state a
returning `get_tool_result(x)` leaves. -/
structure Cleared (x : String) (s : ClaudeMessageReceiver Msg H) : Prop where
  initialised : s.initialised = true
  rendezvous : s.toolResultEvents x = none
  result : s.toolResults x = none

/-- Popping the result of `x` clears `x`. -/
theorem cleared_popToolResult {s : ClaudeMessageReceiver Msg H} (hi : s.initialised = true)
    (x : String) : Cleared x (s.popToolResult x).2 :=
  ⟨hi, by simp [popToolResult], by simp [popToolResult]⟩

/-- Popping the result of any id keeps `x` cleared. -/
theorem Cleared.pop {x : String} {s : ClaudeMessageReceiver Msg H} (hc : Cleared x s)
    (y : String) : Cleared x (s.popToolResult y).2 := by
  by_cases hxy : x = y
  · subst hxy
    exact cleared_popToolResult hc.initialised x
  · exact ⟨hc.initialised, by simp [popToolResult, hxy, hc.rendezvous],
      by simp [popToolResult, hxy, hc.result]⟩

/-- Every step but a request for `x` keeps `x` cleared: only a request creates a rendezvous,
and a resolve stores a result only under an id that has one. -/
theorem Cleared.step {x : String} {s s' : ClaudeMessageReceiver Msg H} {op : Op Msg}
    {o : Out Msg} (hc : Cleared x s) (hop : NotRequestFor x s op)
    (h : s.step op = some (.ok (s', o))) : Cleared x s' := by
  by_cases hinit : op = .initClaudeReceiver
  · subst hinit
    simp only [ClaudeMessageReceiver.step, Option.some.injEq, Except.ok.injEq,
      Prod.mk.injEq] at h
    obtain ⟨rfl, -⟩ := h
    exact ⟨rfl, rfl, rfl⟩
  have hi' := (step_buffers hc.initialised hinit h).1
  cases step_spec hc.initialised hinit h with
  | requestNoHandler req | requestSuspend req _ =>
    have hx : x ≠ req.toolId := Ne.symm hop
    exact ⟨hi', by simp [hx, hc.rendezvous], by simp [hx, hc.result]⟩
  | handlerReturns j out req handler e hj he =>
    -- the resolve found a rendezvous, so it is not for `x`
    have hx : x ≠ req.toolId := by rintro rfl; simp [hc.rendezvous] at he
    exact ⟨hi', by simpa [finish] using hc.rendezvous, by simp [finish, hx, hc.result]⟩
  | getToolResultReady y => exact hc.pop y
  | resumeToolResult j y e hj =>
    exact (⟨hc.initialised, hc.rendezvous, hc.result⟩ : Cleared x (s.finish j)).pop y
  | _ =>
    exact ⟨hi', by simpa [finish, takeClaudeMessages, clearEvent] using hc.rendezvous,
      by simpa [finish, takeClaudeMessages, clearEvent] using hc.result⟩

/-- A `get_tool_result(x)` that returns, at once or on resuming its wait, leaves `x`
cleared. -/
theorem cleared_of_fetch {s s₁ : ClaudeMessageReceiver Msg H} {x : String} {r : ToolResult}
    (hi : s.initialised = true)
    (h : s.step (.getToolResult x) = some (.ok (s₁, .toolResult r)) ∨
      ∃ i e, s.tasks[i]? = some (Task.getToolResult x e true) ∧
        s.step (.resume i) = some (.ok (s₁, .toolResult r))) :
    Cleared x s₁ := by
  rcases h with h | ⟨i, e, ht, h⟩
  · cases step_spec hi (by simp) h with
    | getToolResultReady => exact cleared_popToolResult hi x
  · cases step_spec hi (by simp) h with
    | resumeToolResult _ y _ ht' =>
      cases ht.symm.trans ht'
      exact cleared_popToolResult (show (s.finish i).initialised = true from hi) x

end ClaudeMessageReceiver

open ClaudeMessageReceiver

variable {Msg H : Type}

/-- Every run without a request for `x` keeps `x` cleared. -/
theorem Run.cleared {x : String} {s s' : ClaudeMessageReceiver Msg H} {ops : List (Op Msg)}
    {outs : List (Out Msg)} (hrun : Run (NotRequestFor x) s ops s' outs) (hc : Cleared x s) :
    Cleared x s' := by
  induction hrun with
  | nil => exact hc
  | cons hop hst _ ih => exact ih (hc.step hop hst)

/-- **A result is handed out at most once.**  After `get_tool_result(x)` has returned, at once
or on resuming its wait, and over every following run, in any interleaving and with no calling
discipline, that makes no new request for `x`: the receiver holds neither a rendezvous nor a
result for `x`; the next `get_tool_result(x)` returns the not-found failure at once; and a late
resolve of a dispatch for `x` raises `KeyError(x)` instead of storing a result. -/
theorem tool_result_delivered_once (s : ClaudeMessageReceiver Msg H)
    {s₁ s₂ : ClaudeMessageReceiver Msg H} {x : String} {r : ToolResult} {ops : List (Op Msg)}
    {outs : List (Out Msg)} (hi : s.initialised = true)
    (h : s.step (.getToolResult x) = some (.ok (s₁, .toolResult r)) ∨
      ∃ i e, s.tasks[i]? = some (Task.getToolResult x e true) ∧
        s.step (.resume i) = some (.ok (s₁, .toolResult r)))
    (hrun : Run (NotRequestFor x) s₁ ops s₂ outs) :
    s₂.toolResultEvents x = none ∧ s₂.toolResults x = none ∧
      (∃ s₃, s₂.step (.getToolResult x) =
        some (.ok (s₃, .toolResult (notFoundResult x)))) ∧
      ∀ (j : Nat) (req : ToolRequest) (handler : ToolHandler H)
        (out : Except HandlerError PyValue),
        s₂.tasks[j]? = some (Task.requestToolExecution req handler) → req.toolId = x →
        s₂.step (.handlerReturns j out) = some (.error ⟨x⟩) := by
  have hc := hrun.cleared (cleared_of_fetch hi h)
  refine ⟨hc.rendezvous, hc.result, ⟨(s₂.popToolResult x).2, ?_⟩,
    fun j req handler out hj hx => ?_⟩
  · simp [step, getToolResult, popToolResult, hc.initialised, hc.rendezvous, hc.result]
  · subst hx
    exact (step_eq_error s₂).2 ⟨j, out, req, handler, rfl, hj, hc.rendezvous, rfl⟩

/-- On a workflow with one tool, `Bash`: after `init_claude_receiver()`, a request `t1` for
`Bash` and its handler returning `"a"`, `get_tool_result("t1")` returns `"a"`; a message and a
second `get_tool_result("t1")` follow, and `t1` stays cleared. -/
theorem tool_result_delivered_once_bash :
    let s₀ : ClaudeMessageReceiver String Unit :=
      .new ⟨0, [some (claudeTool "Bash" .workflow ⟨(), true, .missing, .missing⟩)]⟩
        (fun _ => none)
    let s : ClaudeMessageReceiver String Unit := { s₀.initClaudeReceiver with
      events := [false, true]
      toolResults :=
        Function.update (fun _ => none) "t1" (some ⟨"t1", true, some "a", none, false⟩)
      toolResultEvents := Function.update (fun _ => none) "t1" (some 1)
      tasks := [.done] }
    let s₁ := (s.popToolResult "t1").2
    let s₂ := s₁.receiveClaudeMessage "m"
    let s₃ := (s₂.getToolResult "t1").2
    s₀.exec [.initClaudeReceiver, .requestToolExecution ⟨"t1", "Bash"⟩,
        .handlerReturns 0 (.ok (.str "a"))] = some (.ok (s, [.none, .suspended 0, .none])) ∧
      s.step (.getToolResult "t1") =
        some (.ok (s₁, .toolResult ⟨"t1", true, some "a", none, false⟩)) ∧
      Run (NotRequestFor "t1") s₁ [.receiveClaudeMessage "m", .getToolResult "t1"] s₃
        [.none, .toolResult (notFoundResult "t1")] ∧
      s₃.toolResultEvents "t1" = none ∧ s₃.toolResults "t1" = none ∧
      (∃ s₄, s₃.step (.getToolResult "t1") =
        some (.ok (s₄, .toolResult (notFoundResult "t1")))) ∧
      ∀ (j : Nat) (req : ToolRequest) (handler : ToolHandler Unit)
        (out : Except HandlerError PyValue),
        s₃.tasks[j]? = some (Task.requestToolExecution req handler) → req.toolId = "t1" →
        s₃.step (.handlerReturns j out) = some (.error ⟨"t1"⟩) := by
  intro s₀ s s₁ s₂ s₃
  have hget : s.step (.getToolResult "t1") =
      some (.ok (s₁, .toolResult ⟨"t1", true, some "a", none, false⟩)) := rfl
  have hrun : Run (NotRequestFor "t1") s₁ [.receiveClaudeMessage "m", .getToolResult "t1"] s₃
      [.none, .toolResult (notFoundResult "t1")] :=
    .cons trivial (rfl : s₁.step (.receiveClaudeMessage "m") = some (.ok (s₂, .none)))
      (.cons trivial (rfl : s₂.step (.getToolResult "t1") =
        some (.ok (s₃, .toolResult (notFoundResult "t1")))) (.nil s₃))
  exact ⟨rfl, hget, hrun, tool_result_delivered_once s rfl (.inl hget) hrun⟩

/-- Over every run from a state of a fresh instance, every result a step returns is well formed
or the success without a result text of a handler that returned `None`. -/
theorem Run.toolResults {s s' : ClaudeMessageReceiver Msg H} {ops : List (Op Msg)}
    {outs : List (Out Msg)} (hrun : Run (fun _ _ => True) s ops s' outs) (hinv : ResultsInv s)
    (hs : LazyInv s) :
    ∀ r, Out.toolResult r ∈ outs → r.WellFormed ∨ r = { toolId := r.toolId, success := true } := by
  induction hrun with
  | nil => simp
  | cons _ hst _ ih =>
    obtain ⟨hinv', hout⟩ := step_resultsInv hinv hs hst
    intro r hr
    rcases List.mem_cons.1 hr with hr | hr
    · exact hout r hr.symm
    · exact ih hinv' (step_lazyInv hs hst).2 r hr

/-- **The dispatch of `request_tool_execution`.**  For every state and every request: a tool
without a handler stores, under the request's id and nowhere else, the failure whose error
names the tool; a suspended handler, whatever it does, is completed without raising while its
id has a rendezvous, and stores under the request's id and nowhere else its classified result:
`ToolDenied(m, i)` gives the error `m` and the interrupt `i`, any other exception `e` the error
`str(e)` without interrupt, a returned string `s` the success with result `s`, and a returned
value pydantic rejects the failure with the `ValidationError` text.  Over every run of a fresh
instance, every result a step returns is well formed, or is the success without a result text
of a handler that returned `None`. -/
theorem dispatch_tool_results :
    (∀ (s : ClaudeMessageReceiver Msg H) (req : ToolRequest), s.initialised = true →
      s.getToolRegistry.1.get req.toolName = none →
      ∃ s', s.step (.requestToolExecution req) = some (.ok (s', .none)) ∧
        s'.toolResults = Function.update s.toolResults req.toolId (some (noHandlerResult req))) ∧
    (∀ (s : ClaudeMessageReceiver Msg H) (j e : Nat) (req : ToolRequest) (handler : ToolHandler H)
        (out : Except HandlerError PyValue),
      s.tasks[j]? = some (Task.requestToolExecution req handler) →
      s.toolResultEvents req.toolId = some e →
      ∃ s', s.step (.handlerReturns j out) = some (.ok (s', .none)) ∧
        s'.toolResults = Function.update s.toolResults req.toolId
          (some (handlerToolResult req.toolId out))) ∧
    (∀ req : ToolRequest,
      (noHandlerResult req).error = some ("No handler registered for tool: " ++ req.toolName)) ∧
    (∀ (toolId message : String) (interrupt : Bool),
      handlerToolResult toolId (.error (.toolDenied ⟨message, interrupt⟩)) =
        { toolId, success := false, error := some message, interrupt }) ∧
    (∀ toolId e : String,
      handlerToolResult toolId (.error (.other e)) = { toolId, success := false, error := some e }) ∧
    (∀ toolId r : String,
      handlerToolResult toolId (.ok (.str r)) = { toolId, success := true, result := some r }) ∧
    (∀ toolId e : String,
      handlerToolResult toolId (.ok (.invalid e)) =
        { toolId, success := false, error := some e }) ∧
    (∀ (inst : Instance H) (table : RegistryTable H) (ops : List (Op Msg))
        (s : ClaudeMessageReceiver Msg H) (outs : List (Out Msg)),
      Run (fun _ _ => True) (new inst table) ops s outs →
      ∀ r, Out.toolResult r ∈ outs → r.WellFormed ∨ r = { toolId := r.toolId, success := true }) :=
  ⟨fun _ _ hi h => step_requestNoHandler hi h,
    fun _ _ _ _ _ out hj he => (step_handlerReturns _ out hj he).imp fun _ h => ⟨h.1, h.2.1⟩,
    fun _ => rfl, fun _ _ _ => rfl, fun _ _ => rfl, fun _ _ => rfl, fun _ _ => rfl,
    fun inst table _ _ _ hrun => hrun.toolResults (fun _ _ h => nomatch h) (LazyInv.fresh inst table)⟩

/-- A handler that returns `None` is recorded as a success without a result text, and
`get_tool_result` returns it: `result` is `None` although `success` is true. -/
theorem none_handler_result_ill_formed :
    ((ClaudeMessageReceiver.new ⟨0, [some (claudeTool "Bash" .workflow ⟨(), true, .missing, .missing⟩)]⟩
      (fun _ => none) : ClaudeMessageReceiver String Unit).exec
      [.initClaudeReceiver, .requestToolExecution ⟨"t1", "Bash"⟩, .handlerReturns 0 (.ok .none),
        .getToolResult "t1"]).map (Except.map Prod.snd) =
      some (.ok [.none, .suspended 0, .none, .toolResult ⟨"t1", true, none, none, false⟩]) ∧
    ¬ ToolResult.WellFormed ⟨"t1", true, none, none, false⟩ :=
  ⟨rfl, by decide⟩

/-! ## Which handler a request awaits -/

/-- Over every run after `init_claude_receiver()` of steps other than another init, the
receiver stays initialised with its registry set, on the same instance and the same table. -/
theorem Run.registry {s s' : ClaudeMessageReceiver Msg H} {ops : List (Op Msg)}
    {outs : List (Out Msg)} (hrun : Run (fun _ op => op ≠ .initClaudeReceiver) s ops s' outs)
    (hi : s.initialised = true) (hh : s.hasToolRegistry = true) :
    s'.initialised = true ∧ s'.hasToolRegistry = true ∧ s'.inst = s.inst ∧
      s'.toolRegistries = s.toolRegistries := by
  induction hrun with
  | nil => exact ⟨hi, hh, rfl, rfl⟩
  | cons hop hst _ ih =>
    obtain ⟨hi₁, hh₁, hinst, hreg⟩ := step_keeps_registry hi hh hop hst
    obtain ⟨hi', hh', hinst', hreg'⟩ := ih hi₁ hh₁
    exact ⟨hi', hh', hinst'.trans hinst, hreg'.trans hreg⟩

/-- **Requests go to the discovered handlers.**  Over every run after `init_claude_receiver()`
of steps other than another init: `get_registered_tools()` returns the names of the registry
that the init's scan built, and changes nothing; `request_tool_execution(request)` awaits the
handler of the last attribute in `dir()` order tagged with the request's tool name, or, when
no attribute is, the handler the instance's registry held before the scan; and with neither it
stores the failure naming the tool. -/
theorem requests_dispatch_discovered (s₀ : ClaudeMessageReceiver Msg H) (ops : List (Op Msg))
    (s : ClaudeMessageReceiver Msg H) (outs : List (Out Msg))
    (hrun : Run (fun _ op => op ≠ .initClaudeReceiver) s₀.initClaudeReceiver ops s outs)
    (req : ToolRequest) :
    s.step .getRegisteredTools =
      some (.ok (s, .toolNames (registerToolHandlers s₀.toolRegistries s₀.inst).1.keys)) ∧
    (∀ handler : ToolHandler H, (lastTagged s₀.inst.attrs req.toolName).or
        ((getToolRegistry s₀.toolRegistries s₀.inst.id).1.get req.toolName) = some handler →
      ∃ s', s.step (.requestToolExecution req) = some (.ok (s', .suspended s.tasks.length)) ∧
        s'.tasks[s.tasks.length]? = some (Task.requestToolExecution req handler)) ∧
    ((lastTagged s₀.inst.attrs req.toolName).or
        ((getToolRegistry s₀.toolRegistries s₀.inst.id).1.get req.toolName) = none →
      ∃ s', s.step (.requestToolExecution req) = some (.ok (s', .none)) ∧
        s'.toolResults req.toolId = some (noHandlerResult req)) := by
  obtain ⟨hi, hh, hinst, hreg⟩ := hrun.registry rfl rfl
  -- the registry every later call consults is the one the init's scan built
  have hget : s.getToolRegistry = ((registerToolHandlers s₀.toolRegistries s₀.inst).1, s) := by
    rw [getToolRegistry_of_has hh, hinst, hreg]
    simp [registerToolHandlers_snd_self]
  have hlast : (registerToolHandlers s₀.toolRegistries s₀.inst).1.get req.toolName =
      (lastTagged s₀.inst.attrs req.toolName).or
        ((getToolRegistry s₀.toolRegistries s₀.inst.id).1.get req.toolName) :=
    get_foldl_scanAttr _ _ _
  refine ⟨by simp [step, getRegisteredTools, hget], fun handler h => ?_, fun h => ?_⟩
  · exact step_requestSuspend hi (by rw [hget, hlast, h])
  · obtain ⟨s', hs, hres⟩ := step_requestNoHandler hi (by rw [hget, hlast, h])
    exact ⟨s', hs, by simp [hres]⟩

/-- On a workflow with one tool, `Bash`: after `init_claude_receiver()`, a message from Claude,
one to Claude and a `get_registered_tools()`, the query still lists `Bash`, and a request for
`Bash` awaits the decorated method. -/
theorem requests_dispatch_discovered_bash :
    let s₀ : ClaudeMessageReceiver String Unit :=
      .new ⟨0, [some (claudeTool "Bash" .workflow ⟨(), true, .missing, .missing⟩)]⟩
        (fun _ => none)
    let s₁ := s₀.initClaudeReceiver.receiveClaudeMessage "m"
    let s₂ := s₁.sendToClaude "x"
    let s₃ := s₂.getRegisteredTools.2
    Run (fun _ op => op ≠ .initClaudeReceiver) s₀.initClaudeReceiver
        [.receiveClaudeMessage "m", .sendToClaude "x", .getRegisteredTools] s₃
        [.none, .none, .toolNames ["Bash"]] ∧
      s₃.step .getRegisteredTools = some (.ok (s₃, .toolNames ["Bash"])) ∧
      ∃ s', s₃.step (.requestToolExecution ⟨"t1", "Bash"⟩) =
          some (.ok (s', .suspended s₃.tasks.length)) ∧
        s'.tasks[s₃.tasks.length]? =
          some (Task.requestToolExecution ⟨"t1", "Bash"⟩ ⟨"Bash", .workflow, ()⟩) := by
  intro s₀ s₁ s₂ s₃
  have hrun : Run (fun _ op => op ≠ .initClaudeReceiver) s₀.initClaudeReceiver
      [.receiveClaudeMessage "m", .sendToClaude "x", .getRegisteredTools] s₃
      [.none, .none, .toolNames ["Bash"]] :=
    .cons nofun (rfl : s₀.initClaudeReceiver.step (.receiveClaudeMessage "m") =
      some (.ok (s₁, .none)))
      (.cons nofun (rfl : s₁.step (.sendToClaude "x") = some (.ok (s₂, .none)))
        (.cons nofun (rfl : s₂.step .getRegisteredTools = some (.ok (s₃, .toolNames ["Bash"])))
          (.nil s₃)))
  have h := requests_dispatch_discovered s₀ _ s₃ _ hrun ⟨"t1", "Bash"⟩
  exact ⟨hrun, h.1, h.2.1 _ rfl⟩

end ClaudeAgent
