import ClaudeAgent.Steps

/-!
# Lazy initialisation

Every entry point but `get_registered_tools` begins with a `hasattr` guard that runs
`init_claude_receiver()` when it fails; the documented use is to call
`init_claude_receiver()` first in `run()`.

* `step_ensureInit` — a guarded call is the same call on the receiver its guard leaves, so on
  a fresh receiver the first guarded call behaves as if `init_claude_receiver()` had run just
  before it (`step_of_fresh`), and `step_of_uninitialised` lists every step such a receiver
  can take.
* `init_claude_receiver_discards` — `init_claude_receiver()` starts over from every state:
  both buffers are empty and no rendezvous and no result is left, so a dispatch suspended
  before it raises `KeyError` when its handler returns.
* `lazy_init_diverges` — so a message delivered, or a request accepted, before `run()` makes
  its `init_claude_receiver()` call is lost: the lazy and the eager runs of the same calls
  differ.
-/

set_option autoImplicit false

namespace ClaudeAgent

variable {Msg H : Type}

/-- The calls that begin with a `hasattr` guard running `init_claude_receiver()`. -/
def Op.Guarded : Op Msg → Prop
  | .receiveClaudeMessage _ | .waitForClaudeMessages _ | .getClaudeMessages
  | .getAndConsumeMessages | .sendToClaude _ | .requestToolExecution _ | .getToolResult _ => True
  | _ => False

namespace ClaudeMessageReceiver

@[simp] theorem initialised_ensureInit (s : ClaudeMessageReceiver Msg H) :
    s.ensureInit.initialised = true := by
  unfold ensureInit
  split <;> simp_all

/-- A guarded call runs on the receiver its guard leaves. -/
theorem step_ensureInit (s : ClaudeMessageReceiver Msg H) {op : Op Msg} (h : op.Guarded) :
    s.step op = s.ensureInit.step op := by
  have hidem := ensureInit_of_initialised s.ensureInit (initialised_ensureInit s)
  cases op <;> simp only [Op.Guarded] at h <;>
    simp only [step, receiveClaudeMessage, waitForClaudeMessages, getClaudeMessages,
      getAndConsumeMessages, sendToClaude, requestToolExecution, getToolResult, hidem]

/-- On a fresh receiver the first guarded call is the call after `init_claude_receiver()`. -/
theorem step_of_fresh (s : ClaudeMessageReceiver Msg H) {op : Op Msg} (h : op.Guarded)
    (hi : s.initialised = false) : s.step op = s.initClaudeReceiver.step op := by
  rw [step_ensureInit s h, ensureInit, if_neg (by simp [hi])]

/-- What a step does on a receiver that is not initialised and has no suspended call: a
guarded call is the call after `init_claude_receiver()`, and the only unguarded calls that
succeed are the init itself and `get_registered_tools()`. -/
theorem step_of_uninitialised {s s' : ClaudeMessageReceiver Msg H} {op : Op Msg} {o : Out Msg}
    (hi : s.initialised = false) (ht : s.tasks = []) (h : s.step op = some (.ok (s', o))) :
    (op.Guarded ∧ s.initClaudeReceiver.step op = some (.ok (s', o))) ∨
      (op = .initClaudeReceiver ∧ s' = s.initClaudeReceiver ∧ o = .none) ∨
      (op = .getRegisteredTools ∧ s' = s.getToolRegistry.2 ∧
        o = .toolNames s.getToolRegistry.1.keys) := by
  by_cases hg : op.Guarded
  · exact .inl ⟨hg, step_of_fresh s hg hi ▸ h⟩
  cases op with
  | initClaudeReceiver =>
    simp only [step, Option.some.injEq, Except.ok.injEq, Prod.mk.injEq] at h
    exact .inr (.inl ⟨rfl, h.1.symm, h.2.symm⟩)
  | getRegisteredTools =>
    simp only [step, getRegisteredTools, Option.some.injEq, Except.ok.injEq, Prod.mk.injEq] at h
    exact .inr (.inr ⟨rfl, h.1.symm, h.2.symm⟩)
  | timeout i | handlerReturns i _ | resume i => simp [step, ht] at h
  | _ => exact absurd trivial hg

/-- **`init_claude_receiver()` starts over.**  From every state, right after it:
`get_claude_messages` and `get_and_consume_messages` return nothing, `get_tool_result` finds no
result for any id, and a dispatch that was suspended before raises `KeyError` on its id when its
handler returns. -/
theorem init_claude_receiver_discards (s : ClaudeMessageReceiver Msg H) :
    (∃ s', s.initClaudeReceiver.step .getClaudeMessages = some (.ok (s', .messages []))) ∧
    (∃ s', s.initClaudeReceiver.step .getAndConsumeMessages = some (.ok (s', .outgoing []))) ∧
    (∀ x : String, ∃ s', s.initClaudeReceiver.step (.getToolResult x) =
      some (.ok (s', .toolResult (notFoundResult x)))) ∧
    ∀ (j : Nat) (req : ToolRequest) (handler : ToolHandler H) (out : Except HandlerError PyValue),
      s.tasks[j]? = some (Task.requestToolExecution req handler) →
      s.initClaudeReceiver.step (.handlerReturns j out) = some (.error ⟨req.toolId⟩) := by
  refine ⟨⟨_, rfl⟩, ⟨_, rfl⟩, fun x => ⟨_, rfl⟩, fun j req handler out hj =>
    (step_eq_error _).2 ⟨j, out, req, handler, rfl, by simpa using hj, rfl, rfl⟩⟩

/-- A message delivered and a request accepted before `run()` calls
`init_claude_receiver()` are lost.  On a workflow with one tool, `Bash`: delivering `"m"`
before the init, `get_claude_messages` returns `[]`, where the eager run returns `["m"]`; and a
request for `Bash` accepted before the init raises `KeyError("t1")` when its handler returns,
where the eager run stores the result and `get_tool_result("t1")` returns it. -/
theorem lazy_init_diverges :
    let s : ClaudeMessageReceiver String Unit :=
      .new ⟨0, [some (claudeTool "Bash" .workflow ⟨(), true, .missing, .missing⟩)]⟩ (fun _ => none)
    (s.exec [.receiveClaudeMessage "m", .initClaudeReceiver, .getClaudeMessages]).map
        (Except.map Prod.snd) = some (.ok [.none, .none, .messages []]) ∧
      (s.exec [.initClaudeReceiver, .receiveClaudeMessage "m", .getClaudeMessages]).map
        (Except.map Prod.snd) = some (.ok [.none, .none, .messages ["m"]]) ∧
      s.exec [.requestToolExecution ⟨"t1", "Bash"⟩, .initClaudeReceiver,
        .handlerReturns 0 (.ok (.str "a"))] = some (.error ⟨"t1"⟩) ∧
      (s.exec [.initClaudeReceiver, .requestToolExecution ⟨"t1", "Bash"⟩,
        .handlerReturns 0 (.ok (.str "a")), .getToolResult "t1"]).map (Except.map Prod.snd) =
        some (.ok [.none, .suspended 0, .none, .toolResult ⟨"t1", true, some "a", none, false⟩]) :=
  ⟨rfl, rfl, rfl, rfl⟩

end ClaudeMessageReceiver

end ClaudeAgent
