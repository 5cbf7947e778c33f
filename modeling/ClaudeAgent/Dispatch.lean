import ClaudeAgent.Discovery

/-!
# Tool requests, tool results and the dispatch's classification

Model of `ToolRequest`, `ToolResult` (`_workflow_helpers.py`), `ToolDenied`
(`_tool_decorator.py`) and of the `try` block of `request_tool_execution` that turns what the
awaited handler did into a `ToolResult`:

* the handler returns a value, which pydantic validates against `result: str | None`
  (`PyValue`: a string, `None`, or an object it rejects with a `ValidationError`);
* or it raises: `ToolDenied(message, interrupt)` or any other `Exception` (`HandlerError`).

A `ValidationError` raised while building the success result is raised inside the `try`, so
`except Exception` turns it into a failure.  `ToolResult.WellFormed` is the data-model
invariant (a result text iff success, an error iff failure, an interrupt only on failure);
`handlerToolResult_wellFormed` shows every outcome but a returned `None` meets it, and
`noHandlerResult` / `notFoundResult` are the two failures built outside the `try`.
-/

set_option autoImplicit false

namespace ClaudeAgent

/-- `ToolRequest`: `tool_id` and `tool_name`.  (`input` is handed to the handler and read by
nothing else; what the handler does is an argument of the step that completes it.) -/
structure ToolRequest where
  toolId : String
  toolName : String
  deriving DecidableEq, Repr

/-- `ToolResult`, with the field defaults of the pydantic model. -/
structure ToolResult where
  toolId : String
  success : Bool
  result : Option String := none
  error : Option String := none
  interrupt : Bool := false
  deriving DecidableEq, Repr

/-- `ToolDenied(message, interrupt)`. -/
structure ToolDenied where
  message : String
  interrupt : Bool
  deriving DecidableEq, Repr

/-- An exception raised inside the `try` block of the dispatch. -/
inductive HandlerError where
  | toolDenied (e : ToolDenied)
  /-- Any other `Exception`, by `str(e)`. -/
  | other (str : String)
  deriving DecidableEq, Repr

/-- A value returned by a handler, as pydantic's `result: str | None` field takes it. -/
inductive PyValue where
  /-- A value that validates to the string `s`. -/
  | str (s : String)
  | none
  /-- A value the field rejects; `validationError` is `str` of the `ValidationError`. -/
  | invalid (validationError : String)
  deriving DecidableEq, Repr

/-- `ToolResult(tool_id=request.tool_id, success=True, result=output)`. -/
def successResult (toolId : String) : PyValue → Except HandlerError ToolResult
  | .str s => .ok { toolId, success := true, result := some s }
  | .none => .ok { toolId, success := true }
  | .invalid e => .error (.other e)

/-- The `try` block of `request_tool_execution` and its two `except` clauses, given what the
awaited handler did. -/
def handlerToolResult (toolId : String) (outcome : Except HandlerError PyValue) : ToolResult :=
  match outcome >>= successResult toolId with
  | .ok result => result
  | .error (.toolDenied e) =>
    { toolId, success := false, error := some e.message, interrupt := e.interrupt }
  | .error (.other e) => { toolId, success := false, error := some e }

/-- The branch of `request_tool_execution` for a tool with no registered handler. -/
def noHandlerResult (request : ToolRequest) : ToolResult :=
  { toolId := request.toolId, success := false,
    error := some ("No handler registered for tool: " ++ request.toolName) }

/-- The failure `get_tool_result` returns when no result is stored. -/
def notFoundResult (toolId : String) : ToolResult :=
  { toolId, success := false, error := some "Tool result not found" }

/-- The data-model invariant of a `ToolResult`. -/
def ToolResult.WellFormed (r : ToolResult) : Prop :=
  r.result.isSome = r.success ∧ r.error.isSome = !r.success ∧ (r.interrupt = true → r.success = false)

instance : DecidablePred ToolResult.WellFormed := fun _ =>
  inferInstanceAs (Decidable (_ ∧ _ ∧ _))

theorem handlerToolResult_toolId (toolId : String) (o : Except HandlerError PyValue) :
    (handlerToolResult toolId o).toolId = toolId := by
  rcases o with (_ | _) | (_ | _ | _) <;> rfl

/-- **The classification of the dispatch.**  `ToolDenied(m, i)` gives error `m` and interrupt
`i`, any other exception `e` gives error `str(e)` without interrupt, a string `s` gives
success with result `s`, and a value pydantic rejects gives the `ValidationError` as error;
each of these is well formed.  Only a returned `None` is not: it gives success with no
result. -/
theorem handlerToolResult_wellFormed (toolId : String) (o : Except HandlerError PyValue)
    (ho : o ≠ .ok .none) : (handlerToolResult toolId o).WellFormed := by
  rcases o with (_ | _) | (_ | _ | _)
  · exact ⟨rfl, rfl, fun _ => rfl⟩
  · exact ⟨rfl, rfl, fun h => nomatch h⟩
  · exact ⟨rfl, rfl, fun h => nomatch h⟩
  · exact absurd rfl ho
  · exact ⟨rfl, rfl, fun h => nomatch h⟩

theorem noHandlerResult_wellFormed (request : ToolRequest) :
    (noHandlerResult request).WellFormed :=
  ⟨rfl, rfl, fun h => nomatch h⟩

theorem notFoundResult_wellFormed (toolId : String) : (notFoundResult toolId).WellFormed :=
  ⟨rfl, rfl, fun h => nomatch h⟩

end ClaudeAgent
