import ClaudeAgent.Coordinator
import ClaudeAgent.Isolation

/-!
# The life cycle of a tool id: the coordinator refines the per-id machine

The design gives each correlation id its own machine: a request is accepted and dispatched,
its handler resolves it, and one `await_result` consumes the result; after that, or before any
request, `await_result` finds nothing.  `Phase` and `Phase.next` are that machine, with the
results it hands out; it is stated from the design, not read off the code.

* `phaseOf s x` — the abstraction function: the phase of `x` in a state of the receiver, read
  from `_tool_result_events[x]`, its flag and `_tool_results[x]`.
* `idEvent x s op o` — what a step does to `x`, as the design names it; `idTrace` collects
  them along a run.
* `ResultsFiled` — a stored result always has its rendezvous.
* `step_follows_lifecycle` — under the callers' discipline every step of the receiver is, for
  every id, a transition of the per-id machine with the result that machine gives, or leaves
  the phase of the id as it was.
* `coordinator_refines_lifecycle` — hence every run the discipline admits is, projected on any
  id, a trace the per-id machine accepts, from the phase of the id before the run to its
  phase after.
-/

set_option autoImplicit false

namespace ClaudeAgent

/-- The phase of one correlation id: no request in flight (never accepted, or consumed), a
request accepted whose dispatch runs, a result ready. -/
inductive Phase where
  | idle
  | dispatching
  | resolved (result : ToolResult)
  deriving DecidableEq, Repr

/-- What a step does to one correlation id. -/
inductive IdEvent where
  /-- Accept, and dispatch to the registered handler. -/
  | accept
  /-- Accept, find no handler, and resolve with that failure, in one step. -/
  | acceptUnhandled (result : ToolResult)
  /-- The handler finishes; the result is stored and the rendezvous set. -/
  | resolve (result : ToolResult)
  /-- `await_result` returns this result. -/
  | consume (result : ToolResult)
  /-- `await_result` suspends on the rendezvous. -/
  | await
  deriving DecidableEq, Repr

/-- The per-id machine: `none` for an event the phase does not allow.  A result is resolved
under its own id, an unhandled request resolves as a failure, `await_result` returns the result
resolved, consuming it, and finds only the not-found failure when nothing is in flight. -/
def Phase.next (x : String) : Phase → IdEvent → Option Phase
  | .idle, .accept => some .dispatching
  | .idle, .acceptUnhandled r =>
    if r.toolId = x ∧ r.success = false then some (.resolved r) else none
  | .dispatching, .resolve r => if r.toolId = x then some (.resolved r) else none
  | .dispatching, .await => some .dispatching
  | .resolved r, .consume r' => if r' = r then some .idle else none
  | .idle, .consume r => if r = notFoundResult x then some .idle else none
  | _, _ => none

/-- A step that does nothing to the id keeps its phase. -/
def Phase.follow (x : String) (p : Phase) : Option IdEvent → Option Phase
  | none => some p
  | some ev => p.next x ev

/-- The per-id machine run over a trace of events: `none` as soon as one is not allowed. -/
def Phase.run (x : String) : Phase → List IdEvent → Option Phase
  | p, [] => some p
  | p, ev :: evs => (p.next x ev).bind fun p' => p'.run x evs

/-- A step's event, if any, in front of a trace. -/
theorem Phase.run_follow (x : String) (p : Phase) (ev : Option IdEvent) (evs : List IdEvent) :
    p.run x (ev.toList ++ evs) = (p.follow x ev).bind fun p' => p'.run x evs := by
  cases ev <;> rfl

namespace ClaudeMessageReceiver

variable {Msg H : Type}

/-- The abstraction function: the phase of `x`, from its rendezvous, the rendezvous' flag and
its stored result. -/
def phaseOf (s : ClaudeMessageReceiver Msg H) (x : String) : Phase :=
  match s.toolResultEvents x with
  | none => .idle
  | some e =>
    if s.isSet e then .resolved ((s.toolResults x).getD (notFoundResult x)) else .dispatching

/-- What the step `op`, returning `o`, does to `x`. -/
def idEvent (x : String) (s : ClaudeMessageReceiver Msg H) : Op Msg → Out Msg → Option IdEvent
  | .requestToolExecution req, .suspended _ => if req.toolId = x then some .accept else none
  | .requestToolExecution req, _ =>
    if req.toolId = x then some (.acceptUnhandled (noHandlerResult req)) else none
  | .handlerReturns j out, _ =>
    match s.tasks[j]? with
    | some (.requestToolExecution req _) =>
      if req.toolId = x then some (.resolve (handlerToolResult x out)) else none
    | _ => none
  | .getToolResult y, .toolResult r => if y = x then some (.consume r) else none
  | .getToolResult y, _ => if y = x then some .await else none
  | .resume j, .toolResult r =>
    match s.tasks[j]? with
    | some (.getToolResult y _ _) => if y = x then some (.consume r) else none
    | _ => none
  | _, _ => none

/-- The events that the run of `ops` from `s` names for `x`, up to the first step that is not
enabled or raises. -/
def idTrace (x : String) (s : ClaudeMessageReceiver Msg H) : List (Op Msg) → List IdEvent
  | [] => []
  | op :: ops =>
    match s.step op with
    | some (.ok (s', o)) => (idEvent x s op o).toList ++ idTrace x s' ops
    | _ => []

/-- A step names `x` only if it touches `x`. -/
theorem touches_of_idEvent {x : String} {s : ClaudeMessageReceiver Msg H} {op : Op Msg}
    {o : Out Msg} {ev : IdEvent} (h : idEvent x s op o = some ev) : Touches x s op := by
  cases op <;> simp only [idEvent] at h
  all_goals first
    | (split at h <;> (try split at h) <;> simp_all [Touches])
    | simp_all [Touches]

/-- Two states that agree on `x` give it the same phase. -/
theorem SameAt.phaseOf {x : String} {s s' : ClaudeMessageReceiver Msg H} (h : SameAt x s s') :
    s'.phaseOf x = s.phaseOf x := by
  unfold ClaudeMessageReceiver.phaseOf
  rw [h.rendezvous, h.result]
  cases hx : s.toolResultEvents x with
  | none => rfl
  | some e => simp only [h.flag e hx]

/-! ## Stored results have their rendezvous -/

/-- Every stored result has its rendezvous: results are stored only under an id with a
rendezvous, and popped together with it. -/
def ResultsFiled (s : ClaudeMessageReceiver Msg H) : Prop :=
  ∀ x, (s.toolResults x).isSome → (s.toolResultEvents x).isSome

/-- Removing the result and the rendezvous of one id keeps `ResultsFiled`. -/
theorem ResultsFiled.pop {s : ClaudeMessageReceiver Msg H} (hf : ResultsFiled s) (y : String) :
    ResultsFiled (s.popToolResult y).2 := fun x hx => by
  by_cases hxy : x = y
  · subst hxy; simp [popToolResult] at hx
  · simpa [popToolResult, hxy] using hf x (by simpa [popToolResult, hxy] using hx)

/-- Every step the discipline admits keeps `ResultsFiled`. -/
theorem ResultsFiled.step {s s' : ClaudeMessageReceiver Msg H} {op : Op Msg} {o : Out Msg}
    (hf : ResultsFiled s) (hinv : CoordInv s) (hop : Coordinated s op)
    (h : s.step op = some (.ok (s', o))) : ResultsFiled s' := by
  have hop' : op ≠ .initClaudeReceiver := by rintro rfl; exact hop
  cases step_spec hinv.buffers.initialised hop' h with
  | requestNoHandler req =>
    intro x hx
    by_cases hxy : x = req.toolId
    · subst hxy; simp
    · simpa [hxy] using hf x (by simpa [hxy] using hx)
  | requestSuspend req handler =>
    intro x hx
    by_cases hxy : x = req.toolId
    · subst hxy; simp
    · simpa [hxy] using hf x (by simpa using hx)
  | handlerReturns j out req handler e hj he =>
    intro x hx
    by_cases hxy : x = req.toolId
    · subst hxy; simp [finish, he]
    · simpa [finish] using hf x (by simpa [finish, hxy] using hx)
  | getToolResultReady y => exact hf.pop y
  | resumeToolResult j y => exact (show ResultsFiled (s.finish j) from hf).pop y
  | _ => simpa [ResultsFiled, finish, takeClaudeMessages, clearEvent] using hf

end ClaudeMessageReceiver

open ClaudeMessageReceiver

variable {Msg H : Type}

/-- Every state reached under the discipline meets `ResultsFiled`. -/
theorem Reachable.resultsFiled {s : ClaudeMessageReceiver Msg H} (h : Reachable Coordinated s) :
    ResultsFiled s := by
  induction h with
  | init s _ => exact fun x hx => by simp at hx
  | step hs hop hst ih => exact ih.step hs.coordInv hop hst

/-- A step that does not touch `x` names no event for it and keeps its phase. -/
theorem follow_of_not_touches {s s' : ClaudeMessageReceiver Msg H} {op : Op Msg} {o : Out Msg}
    {x : String} (hr : RendezvousInv s) (ht : ¬ Touches x s op)
    (h : s.step op = some (.ok (s', o))) :
    (s.phaseOf x).follow x (idEvent x s op o) = some (s'.phaseOf x) := by
  cases hev : idEvent x s op o with
  | none => exact congrArg some (step_sameAt hr ht h).phaseOf.symm
  | some ev => exact absurd (touches_of_idEvent hev) ht

/-- Every step the discipline admits, from a state it reaches, is for every id `x` the
transition of the per-id machine that the step names, or leaves the phase of `x` as it was. -/
theorem step_follows_lifecycle {s s' : ClaudeMessageReceiver Msg H} {op : Op Msg}
    {o : Out Msg} (hs : Reachable Coordinated s) (hop : Coordinated s op)
    (h : s.step op = some (.ok (s', o))) (x : String) :
    (s.phaseOf x).follow x (idEvent x s op o) = some (s'.phaseOf x) := by
  have hinv := hs.coordInv
  have hop' : op ≠ .initClaudeReceiver := by rintro rfl; exact hop
  by_cases ht : Touches x s op
  swap
  · exact follow_of_not_touches hs.rendezvousInv ht h
  cases step_spec hinv.buffers.initialised hop' h with
  | requestNoHandler req =>
    subst ht
    simp [phaseOf, idEvent, Phase.follow, Phase.next, (Coordinated.request hop).1, noHandlerResult]
  | requestSuspend req handler =>
    subst ht
    simp [phaseOf, idEvent, Phase.follow, Phase.next, (Coordinated.request hop).1, isSet,
      getD_append_false, List.getD_eq_getElem?_getD]
  | handlerReturns j out req handler e hj he =>
    -- the dispatch's rendezvous is clear until its own handler sets it
    obtain ⟨req', handler', hj', rfl⟩ := ht
    cases hj.symm.trans hj'
    obtain ⟨⟨e', he', hclear⟩, -⟩ := hinv.dispatch j req handler hj
    cases he.symm.trans he'
    simp [phaseOf, idEvent, Phase.follow, Phase.next, hj, he, hclear, finish,
      hinv.event_lt _ e he, handlerToolResult_toolId]
  | getToolResultReady y hready =>
    subst ht
    cases hx : s.toolResultEvents y with
    | none =>
      -- nothing in flight: no result is stored either
      have hr : s.toolResults y = none :=
        Option.not_isSome_iff_eq_none.1 fun hr => by simpa [hx] using hs.resultsFiled y hr
      simp [phaseOf, idEvent, Phase.follow, Phase.next, hx, hr, popToolResult]
    | some e =>
      simp [phaseOf, idEvent, Phase.follow, Phase.next, hx, hready e hx, popToolResult]
  | getToolResultSuspend y e he hclear =>
    subst ht
    simp [phaseOf, idEvent, Phase.follow, Phase.next, he, hclear]
  | resumeToolResult j y e hj =>
    -- a woken fetch finds the rendezvous of its id set
    obtain ⟨e', w, hj'⟩ := ht
    cases hj.symm.trans hj'
    obtain ⟨hx, hw, -⟩ := hinv.fetch j x e true hj
    simp [phaseOf, idEvent, Phase.follow, Phase.next, hj, hx, ← hw, popToolResult, finish]
  | resumeWait j e timed hj =>
    obtain ⟨e', w, hj'⟩ := ht
    cases hj.symm.trans hj'
  | _ => exact ht.elim

/-- **The coordinator refines the per-id life cycle.**  From every state reached from
`init_claude_receiver()` under the callers' discipline, every run of steps the discipline
admits names, for every id `x`, a trace of events that the per-id machine accepts from the
phase `x` had, ending in the phase `x` has: each request for `x` accepts it (and resolves it
with the failure when no handler is registered), the completion of its handler resolves it with
the classified result, `get_tool_result(x)` or the resumption of its wait consumes the resolved
result, or finds the not-found failure when nothing is in flight, and suspends only while the
dispatch runs; no other step changes the phase of `x`. -/
theorem coordinator_refines_lifecycle {s s' : ClaudeMessageReceiver Msg H} {ops : List (Op Msg)}
    {outs : List (Out Msg)} (hs : Reachable Coordinated s) (hrun : Run Coordinated s ops s' outs)
    (x : String) : (s.phaseOf x).run x (s.idTrace x ops) = some (s'.phaseOf x) := by
  induction hrun with
  | nil => rfl
  | cons hop hst _ ih =>
    rw [idTrace, hst, Phase.run_follow, step_follows_lifecycle hs hop hst x]
    exact ih (hs.step hop hst)

/-- A request `t1` for `Bash`, a `get_tool_result("t1")` that suspends, the handler returning
`"a"` and the resumed fetch: `t1` is accepted, awaited, resolved and consumed, and ends idle. -/
theorem coordinator_refines_lifecycle_bash :
    let s₁ : ClaudeMessageReceiver String Unit := (ClaudeMessageReceiver.new
      ⟨0, [some (claudeTool "Bash" .workflow ⟨(), true, .missing, .missing⟩)]⟩
      (fun _ => none)).initClaudeReceiver
    let s₂ : ClaudeMessageReceiver String Unit := { s₁ with
      events := [false, false]
      toolResultEvents := Function.update s₁.toolResultEvents "t1" (some 1)
      tasks := [.requestToolExecution ⟨"t1", "Bash"⟩ ⟨"Bash", .workflow, ()⟩] }
    let s₃ : ClaudeMessageReceiver String Unit :=
      { s₂ with tasks := s₂.tasks ++ [.getToolResult "t1" 1 false] }
    let r := handlerToolResult "t1" (.ok (.str "a"))
    let s₄ : ClaudeMessageReceiver String Unit := { s₃ with
      events := [false, true]
      toolResults := Function.update s₃.toolResults "t1" (some r)
      tasks := [.done, .getToolResult "t1" 1 true] }
    let s₅ := ((s₄.finish 1).popToolResult "t1").2
    let ops : List (Op String) := [.requestToolExecution ⟨"t1", "Bash"⟩, .getToolResult "t1",
      .handlerReturns 0 (.ok (.str "a")), .resume 1]
    Reachable Coordinated s₁ ∧
      Run Coordinated s₁ ops s₅ [.suspended 0, .suspended 1, .none, .toolResult r] ∧
      s₁.idTrace "t1" ops = [.accept, .await, .resolve r, .consume r] ∧
      s₅.phaseOf "t1" = .idle ∧
      (s₁.phaseOf "t1").run "t1" (s₁.idTrace "t1" ops) = some (s₅.phaseOf "t1") := by
  intro s₁ s₂ s₃ r s₄ s₅ ops
  have h₁ : Reachable Coordinated s₁ := .init _ rfl
  have hop₁ : Coordinated s₁ (.requestToolExecution ⟨"t1", "Bash"⟩) := by
    simp [Coordinated, Unconsumed, s₁, ClaudeMessageReceiver.new]
  have hop₂ : Coordinated s₂ (.getToolResult "t1") := by
    rintro ⟨_ | i, e, w, h⟩ <;> simp [s₂] at h
  have hrun : Run Coordinated s₁ ops s₅ [.suspended 0, .suspended 1, .none, .toolResult r] :=
    .cons hop₁
      (rfl : s₁.step (.requestToolExecution ⟨"t1", "Bash"⟩) = some (.ok (s₂, .suspended 0)))
    (.cons hop₂ (rfl : s₂.step (.getToolResult "t1") = some (.ok (s₃, .suspended 1)))
    (.cons trivial (rfl : s₃.step (.handlerReturns 0 (.ok (.str "a"))) = some (.ok (s₄, .none)))
    (.cons trivial (rfl : s₄.step (.resume 1) = some (.ok (s₅, .toolResult r))) (.nil s₅))))
  exact ⟨h₁, hrun, by decide, rfl, coordinator_refines_lifecycle h₁ hrun "t1"⟩

end ClaudeAgent
