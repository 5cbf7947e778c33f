import ClaudeAgent.Dispatch

/-!
# The `ClaudeMessageReceiver` mixin as a state machine

Model of `ClaudeMessageReceiver` (`_workflow_helpers.py`).  The workflow runs on a
single-threaded cooperative scheduler, so a method runs without interruption up to its first
`await` that suspends, and every call is a sequence of atomic steps:

* the synchronous methods and the parts of the `async` ones that do not suspend are one step
  each (`initClaudeReceiver`, `receiveClaudeMessage`, `getClaudeMessages`,
  `getAndConsumeMessages`, `sendToClaude`, `getRegisteredTools`, and the branches of
  `waitForClaudeMessages`, `requestToolExecution` and `getToolResult` that do not wait);
* a call that suspends becomes a `Task`, and later steps complete it: the timer of a timed
  `wait_for_claude_messages` fires (`timeout`), the handler awaited by
  `request_tool_execution` completes (`handlerReturns`), a woken waiter runs to its end
  (`resume`).

`asyncio.Event` objects are numbered by creation (`events` holds their flags); `setEvent`
completes the waiter future of every call suspended on the event, as `Event.set` does, and
the call then resumes at a later step.  A timed `wait_for` may suspend even on a set event
(Python 3.11 wraps the wait in a task), so the model lets it; the immediate return of
Python 3.12 is the run that resumes it at once.

Every method starts with its `hasattr` guard: `init_claude_receiver` sets all the attributes
the guards test at once, so one flag, `initialised`, answers them.  `step` is the whole
machine: `none` when a step is not enabled, `.error` when a `KeyError` escapes a signal
handler.  `Run` and `Reachable` close it under any interleaving a caller admits.
-/

set_option autoImplicit false

namespace ClaudeAgent

/-- A call suspended at an `await`, or one that has returned. -/
inductive Task (H : Type) where
  /-- `wait_for_claude_messages`, suspended on the event object `event`; `timed` when it was
  given a timeout; `woken` once its waiter future is done (the event was set, or the timer
  fired). -/
  | waitForClaudeMessages (event : Nat) (timed : Bool) (woken : Bool)
  /-- `request_tool_execution`, awaiting `handler.handler(request.tool_id, request.input)`. -/
  | requestToolExecution (request : ToolRequest) (handler : ToolHandler H)
  /-- `get_tool_result(tool_id)`, suspended on the event object `event`. -/
  | getToolResult (toolId : String) (event : Nat) (woken : Bool)
  | done

namespace Task

variable {H : Type}

/-- `Event.set()` completes the future of every call suspended on the event. -/
def wake (e : Nat) : Task H → Task H
  | .waitForClaudeMessages e' timed woken => .waitForClaudeMessages e' timed (woken || e' == e)
  | .getToolResult toolId e' woken => .getToolResult toolId e' (woken || e' == e)
  | t => t

end Task

/-- The `KeyError` of a dict lookup, with its key. -/
structure KeyError where
  key : String
  deriving DecidableEq, Repr

/-- The state of a workflow instance that mixes in `ClaudeMessageReceiver`: its attributes,
the module's registry table, its `asyncio.Event` objects and its suspended calls. -/
structure ClaudeMessageReceiver (Msg H : Type) where
  /-- The instance as `register_tool_handlers` scans it. -/
  inst : Instance H
  /-- Whether `init_claude_receiver` has run: every `hasattr` guard asks this. -/
  initialised : Bool
  claudeMessages : List Msg
  claudeOutgoing : List String
  claudeMessageEvent : Nat
  toolResults : String → Option ToolResult
  toolResultEvents : String → Option Nat
  /-- `hasattr(self, "_tool_registry")`; the attribute is the table's entry for `id(self)`. -/
  hasToolRegistry : Bool
  /-- `_WORKFLOW_TOOL_REGISTRY`. -/
  toolRegistries : RegistryTable H
  /-- The flag of every `asyncio.Event` created so far, by creation order. -/
  events : List Bool
  /-- Every call that suspended, by task number. -/
  tasks : List (Task H)

/-- What a step returns to its caller. -/
inductive Out (Msg : Type) where
  /-- A signal handler, or `send_to_claude`. -/
  | none
  /-- The call suspended as the task with this number. -/
  | suspended (task : Nat)
  | messages (batch : List Msg)
  | outgoing (batch : List String)
  | toolResult (result : ToolResult)
  | toolNames (names : List String)
  deriving DecidableEq, Repr

/-- The steps of the machine: the calls made on the instance, and the events that let a
suspended call go on. -/
inductive Op (Msg : Type) where
  | initClaudeReceiver
  | receiveClaudeMessage (message : Msg)
  /-- `wait_for_claude_messages(timeout)`, `timed` when a timeout is given. -/
  | waitForClaudeMessages (timed : Bool)
  | getClaudeMessages
  | getAndConsumeMessages
  | sendToClaude (message : String)
  | requestToolExecution (request : ToolRequest)
  | getToolResult (toolId : String)
  | getRegisteredTools
  /-- The timer of the suspended timed `wait_for_claude_messages` number `task` fires. -/
  | timeout (task : Nat)
  /-- The handler awaited by the suspended `request_tool_execution` number `task` returns a
  value or raises. -/
  | handlerReturns (task : Nat) (outcome : Except HandlerError PyValue)
  /-- The woken call number `task` resumes and runs to its end. -/
  | resume (task : Nat)

namespace ClaudeMessageReceiver

variable {Msg H : Type}

/-- A freshly constructed instance: `init_claude_receiver` has not run, no event exists and
no call is suspended.  The table may already hold a registry under the instance's `id`. -/
def new (inst : Instance H) (table : RegistryTable H) : ClaudeMessageReceiver Msg H :=
  ⟨inst, false, [], [], 0, fun _ => none, fun _ => none, false, table, [], []⟩

variable (s : ClaudeMessageReceiver Msg H)

/-! ## Events and tasks -/

/-- `event.is_set()`. -/
def isSet (e : Nat) : Bool := s.events.getD e false

/-- `event.set()`: the flag is set, and if it was clear every call suspended on `event` is
woken. -/
@[simps] def setEvent (e : Nat) : ClaudeMessageReceiver Msg H :=
  { s with
    events := s.events.set e true
    tasks := if s.isSet e then s.tasks else s.tasks.map (·.wake e) }

/-- `event.clear()`. -/
@[simps] def clearEvent (e : Nat) : ClaudeMessageReceiver Msg H :=
  { s with events := s.events.set e false }

/-- Suspend the running call as a new task. -/
def spawn (t : Task H) : Nat × ClaudeMessageReceiver Msg H :=
  (s.tasks.length, { s with tasks := s.tasks ++ [t] })

/-- Task `i` returns. -/
def finish (i : Nat) : ClaudeMessageReceiver Msg H := { s with tasks := s.tasks.set i .done }

/-! ## The methods -/

/-- `init_claude_receiver()`; `asyncio.Event()` is a new clear event, numbered by creation. -/
@[simps] def initClaudeReceiver : ClaudeMessageReceiver Msg H :=
  { s with
    initialised := true
    claudeMessages := []
    claudeOutgoing := []
    claudeMessageEvent := s.events.length
    toolResults := fun _ => none
    toolResultEvents := fun _ => none
    hasToolRegistry := true
    toolRegistries := (registerToolHandlers s.toolRegistries s.inst).2
    events := s.events ++ [false] }

/-- `if not hasattr(self, ...): self.init_claude_receiver()`. -/
def ensureInit : ClaudeMessageReceiver Msg H :=
  if s.initialised then s else s.initClaudeReceiver

/-- `receive_claude_message(message)`. -/
def receiveClaudeMessage (message : Msg) : ClaudeMessageReceiver Msg H :=
  let s := s.ensureInit
  { s with claudeMessages := s.claudeMessages ++ [message] }.setEvent s.claudeMessageEvent

/-- Take the inbound buffer and clear its event: the tail of `wait_for_claude_messages`. -/
@[simps] def takeClaudeMessages : List Msg × ClaudeMessageReceiver Msg H :=
  (s.claudeMessages, { s with claudeMessages := [] }.clearEvent s.claudeMessageEvent)

/-- `get_claude_messages()`. -/
def getClaudeMessages : List Msg × ClaudeMessageReceiver Msg H :=
  s.ensureInit.takeClaudeMessages

/-- `wait_for_claude_messages(timeout)` up to its `await`: without a timeout it returns at
once when the event is set; otherwise it suspends on the event. -/
def waitForClaudeMessages (timed : Bool) : Out Msg × ClaudeMessageReceiver Msg H :=
  let s := s.ensureInit
  if !timed && s.isSet s.claudeMessageEvent then
    (.messages s.takeClaudeMessages.1, s.takeClaudeMessages.2)
  else
    let t := s.spawn (.waitForClaudeMessages s.claudeMessageEvent timed (s.isSet s.claudeMessageEvent))
    (.suspended t.1, t.2)

/-- `get_and_consume_messages()`. -/
def getAndConsumeMessages : List String × ClaudeMessageReceiver Msg H :=
  let s := s.ensureInit
  (s.claudeOutgoing, { s with claudeOutgoing := [] })

/-- `send_to_claude(message)`. -/
def sendToClaude (message : String) : ClaudeMessageReceiver Msg H :=
  let s := s.ensureInit
  { s with claudeOutgoing := s.claudeOutgoing ++ [message] }

/-- `ClaudeMessageReceiver.get_tool_registry()`. -/
def getToolRegistry : ToolRegistry H × ClaudeMessageReceiver Msg H :=
  if s.hasToolRegistry then ((s.toolRegistries s.inst.id).getD .empty, s)
  else
    ((registerToolHandlers s.toolRegistries s.inst).1,
      { s with hasToolRegistry := true, toolRegistries := (registerToolHandlers s.toolRegistries s.inst).2 })

/-- The end of `request_tool_execution`: store the result, then set the rendezvous of the id,
looked up again by key; a missing key raises `KeyError`. -/
def storeToolResult (toolId : String) (result : ToolResult) :
    Except KeyError (ClaudeMessageReceiver Msg H) :=
  match s.toolResultEvents toolId with
  | some e => .ok ({ s with toolResults := Function.update s.toolResults toolId (some result) }.setEvent e)
  | none => .error ⟨toolId⟩

/-- `request_tool_execution(request)` up to the `await` of the handler, or to its end when
no handler is registered for the tool. -/
def requestToolExecution (request : ToolRequest) :
    Except KeyError (Out Msg × ClaudeMessageReceiver Msg H) :=
  let s := s.ensureInit
  let s := { s with
    events := s.events ++ [false]
    toolResultEvents := Function.update s.toolResultEvents request.toolId (some s.events.length) }
  match s.getToolRegistry.1.get request.toolName with
  | none => (s.getToolRegistry.2.storeToolResult request.toolId (noHandlerResult request)).map (.none, ·)
  | some handler =>
    let t := s.getToolRegistry.2.spawn (.requestToolExecution request handler)
    .ok (.suspended t.1, t.2)

/-- The tail of `get_tool_result` after its `await`: pop the result, delete the rendezvous. -/
def popToolResult (toolId : String) : ToolResult × ClaudeMessageReceiver Msg H :=
  ((s.toolResults toolId).getD (notFoundResult toolId),
    { s with
      toolResults := Function.update s.toolResults toolId none
      toolResultEvents := Function.update s.toolResultEvents toolId none })

/-- `get_tool_result(tool_id)` up to its `await`, which suspends only on a clear event. -/
def getToolResult (toolId : String) : Out Msg × ClaudeMessageReceiver Msg H :=
  let s := s.ensureInit
  match s.toolResultEvents toolId with
  | some e =>
    if s.isSet e then (.toolResult (s.popToolResult toolId).1, (s.popToolResult toolId).2)
    else
      let t := s.spawn (.getToolResult toolId e false)
      (.suspended t.1, t.2)
  | none => (.toolResult (s.popToolResult toolId).1, (s.popToolResult toolId).2)

/-- `get_registered_tools()`. -/
def getRegisteredTools : List String × ClaudeMessageReceiver Msg H :=
  (s.getToolRegistry.1.keys, s.getToolRegistry.2)

/-! ## The machine -/

/-- One step: `none` when it is not enabled, `.error` when a `KeyError` escapes. -/
def step : Op Msg → Option (Except KeyError (ClaudeMessageReceiver Msg H × Out Msg))
  | .initClaudeReceiver => some (.ok (s.initClaudeReceiver, .none))
  | .receiveClaudeMessage m => some (.ok (s.receiveClaudeMessage m, .none))
  | .waitForClaudeMessages timed =>
    some (.ok ((s.waitForClaudeMessages timed).2, (s.waitForClaudeMessages timed).1))
  | .getClaudeMessages => some (.ok (s.getClaudeMessages.2, .messages s.getClaudeMessages.1))
  | .getAndConsumeMessages =>
    some (.ok (s.getAndConsumeMessages.2, .outgoing s.getAndConsumeMessages.1))
  | .sendToClaude m => some (.ok (s.sendToClaude m, .none))
  | .requestToolExecution request => some ((s.requestToolExecution request).map fun r => (r.2, r.1))
  | .getToolResult toolId => some (.ok ((s.getToolResult toolId).2, (s.getToolResult toolId).1))
  | .getRegisteredTools => some (.ok (s.getRegisteredTools.2, .toolNames s.getRegisteredTools.1))
  | .timeout i =>
    match s.tasks[i]? with
    | some (.waitForClaudeMessages e true false) =>
      some (.ok ({ s with tasks := s.tasks.set i (.waitForClaudeMessages e true true) }, .none))
    | _ => none
  | .handlerReturns i outcome =>
    match s.tasks[i]? with
    | some (.requestToolExecution request _) =>
      some (((s.finish i).storeToolResult request.toolId
        (handlerToolResult request.toolId outcome)).map (·, .none))
    | _ => none
  | .resume i =>
    match s.tasks[i]? with
    | some (.waitForClaudeMessages _ _ true) =>
      some (.ok ((s.finish i).takeClaudeMessages.2, .messages (s.finish i).takeClaudeMessages.1))
    | some (.getToolResult toolId _ true) =>
      some (.ok (((s.finish i).popToolResult toolId).2,
        .toolResult ((s.finish i).popToolResult toolId).1))
    | _ => none

end ClaudeMessageReceiver

open ClaudeMessageReceiver

variable {Msg H : Type}

/-- Run the steps in order; `none` as soon as one is not enabled, `.error` as soon as one
raises. -/
def ClaudeMessageReceiver.exec :
    ClaudeMessageReceiver Msg H → List (Op Msg) →
      Option (Except KeyError (ClaudeMessageReceiver Msg H × List (Out Msg)))
  | s, [] => some (.ok (s, []))
  | s, op :: ops =>
    match s.step op with
    | some (.ok (s', o)) => (s'.exec ops).map (·.map fun r => (r.1, o :: r.2))
    | some (.error e) => some (.error e)
    | none => none

/-- `Run adm s ops s' outs`: from `s` the steps `ops` run in order, each admitted by `adm`
and none raising, and end in `s'` with the outputs `outs`. -/
inductive Run (adm : ClaudeMessageReceiver Msg H → Op Msg → Prop) :
    ClaudeMessageReceiver Msg H → List (Op Msg) → ClaudeMessageReceiver Msg H → List (Out Msg) →
      Prop where
  | nil (s : ClaudeMessageReceiver Msg H) : Run adm s [] s []
  | cons {s s₁ s₂ : ClaudeMessageReceiver Msg H} {op : Op Msg} {o : Out Msg} {ops : List (Op Msg)}
      {outs : List (Out Msg)} :
      adm s op → s.step op = some (.ok (s₁, o)) → Run adm s₁ ops s₂ outs →
        Run adm s (op :: ops) s₂ (o :: outs)

/-- The states reached from `init_claude_receiver` on an instance with no suspended call, by
steps that `adm` admits. -/
inductive Reachable (adm : ClaudeMessageReceiver Msg H → Op Msg → Prop) :
    ClaudeMessageReceiver Msg H → Prop where
  | init (s : ClaudeMessageReceiver Msg H) : s.tasks = [] → Reachable adm s.initClaudeReceiver
  | step {s s' : ClaudeMessageReceiver Msg H} {op : Op Msg} {o : Out Msg} :
      Reachable adm s → adm s op → s.step op = some (.ok (s', o)) → Reachable adm s'

/-- A run of `exec` that raises nothing is a run of the machine with every step admitted. -/
theorem exec_eq_ok {s s' : ClaudeMessageReceiver Msg H} {ops : List (Op Msg)}
    {outs : List (Out Msg)} (h : s.exec ops = some (.ok (s', outs))) :
    Run (fun _ _ => True) s ops s' outs := by
  induction ops generalizing s outs with
  | nil =>
    obtain ⟨rfl, rfl⟩ : s = s' ∧ [] = outs := by simpa [exec] using h
    exact .nil _
  | cons op ops ih =>
    simp only [exec] at h
    split at h
    · rename_i s₁ o hst
      obtain ⟨_ | ⟨s₂, os⟩, hr, hmap⟩ := Option.map_eq_some'.1 h
      · cases hmap
      · simp only [Except.map, Except.ok.injEq, Prod.mk.injEq] at hmap
        obtain ⟨rfl, rfl⟩ := hmap
        exact .cons trivial hst (ih hr)
    all_goals cases h

end ClaudeAgent
