import ClaudeAgent.Registry

/-!
# Capability discovery: `claude_tool` and `register_tool_handlers`

Model of the tagging decorator and of the `dir()` scan of `_tool_decorator.py`:

* `claudeTool` — `claude_tool(tool_name, execution)` sets `_claude_tool_name` and
  `_claude_tool_execution` on the function it decorates.
* `registerAttr` / `scanAttr` — one iteration of the scan: `getattr`, `callable`,
  `hasattr(attr, "_claude_tool_name")`, the two tag reads and `registry.register`, inside
  `try` / `except Exception: pass`.  Each step that can raise is an `Except`.
* `registerToolHandlers` — the fold of `scanAttr` over `dir(workflow_instance)`, on the
  registry `get_tool_registry(workflow_instance)` returns.

`tagged` says which attributes contribute a handler (callable, reachable, both tags set) and
`lastTagged` picks, for a name, the last such attribute in `dir()` order.  The principal
result is `register_tool_handlers_spec`: the scan returns the registry the table holds, maps
every discovered name to the last attribute carrying it and leaves every other entry alone,
keeps `tool_name = key` once it holds, and running it twice is running it once.
`registered_names_order` gives the order of the names: those the registry held, then each
new one at its first tagged attribute, as `List.eraseDups` keeps first occurrences.
`registry_table_instances` follows the table across instances: a scan touches only its own
`id`; a later instance with a reused `id` inherits every handler it does not re-tag, since
nothing in the package calls `clear_tool_registry`; after a clear it starts afresh.
-/

set_option autoImplicit false

namespace ClaudeAgent

/-- Reading an attribute of an object: it is set, it is missing (`AttributeError`), or the
lookup raises another exception (a failing property, say). -/
inductive Lookup (α : Type) where
  | value (a : α)
  | missing
  | raises
  deriving DecidableEq, Repr

namespace Lookup

variable {α : Type}

/-- `hasattr(obj, name)`: only `AttributeError` reads as `False`, any other exception
propagates. -/
def has : Lookup α → Except Unit Bool
  | .value _ => .ok true
  | .missing => .ok false
  | .raises => .error ()

/-- `obj.name`: a missing attribute raises `AttributeError`. -/
def get : Lookup α → Except Unit α
  | .value a => .ok a
  | .missing => .error ()
  | .raises => .error ()

end Lookup

variable {H : Type}

/-- An object reached through `getattr(workflow_instance, attr_name)`, as the scan sees it:
the object itself, whether it is callable, and its two tag attributes. -/
structure PyObject (H : Type) where
  self : H
  callable : Bool
  claudeToolName : Lookup String
  claudeToolExecution : Lookup Execution

/-- `claude_tool(tool_name, execution)(func)`. -/
def claudeTool (toolName : String) (execution : Execution) (func : PyObject H) : PyObject H :=
  { func with claudeToolName := .value toolName, claudeToolExecution := .value execution }

/-- A workflow instance as the scan sees it: `id(workflow_instance)`, and for each name of
`dir(workflow_instance)` in order what `getattr` gives (`none` when the access raises). -/
structure Instance (H : Type) where
  id : Nat
  attrs : List (Option (PyObject H))

/-! ## The scan -/

/-- The `try` body of the scan for one attribute. -/
def registerAttr (registry : ToolRegistry H) :
    Option (PyObject H) → Except Unit (ToolRegistry H)
  | none => .error ()
  | some attr => do
    let isTool ← if attr.callable then attr.claudeToolName.has else pure false
    if isTool then
      let toolName ← attr.claudeToolName.get
      let execution ← attr.claudeToolExecution.get
      pure (registry.register toolName attr.self execution)
    else
      pure registry

/-- One iteration of the `for` loop: the `try` body, and `except Exception: pass`. -/
def scanAttr (registry : ToolRegistry H) (attr : Option (PyObject H)) : ToolRegistry H :=
  match registerAttr registry attr with
  | .ok r => r
  | .error () => registry

/-- `register_tool_handlers(workflow_instance)`: the scan mutates the registry object the
table holds, so the table's entry is the scanned registry. -/
def registerToolHandlers (table : RegistryTable H) (inst : Instance H) :
    ToolRegistry H × RegistryTable H :=
  let registry := inst.attrs.foldl scanAttr (getToolRegistry table inst.id).1
  (registry, Function.update (getToolRegistry table inst.id).2 inst.id (some registry))

/-! ## What the scan registers -/

/-- The handler an attribute contributes: a reachable callable with both tags set. -/
def tagged : Option (PyObject H) → Option (ToolHandler H)
  | some ⟨h, true, .value n, .value e⟩ => some ⟨n, e, h⟩
  | _ => none

/-- The attribute that comes last in `dir()` order among those tagged `name`. -/
def lastTagged (attrs : List (Option (PyObject H))) (name : String) : Option (ToolHandler H) :=
  ((attrs.filterMap tagged).filter (·.toolName == name)).getLast?

/-- A decorated callable is tagged with the decorator's arguments. -/
theorem tagged_claudeTool (n : String) (e : Execution) (f : PyObject H) (hf : f.callable = true) :
    tagged (some (claudeTool n e f)) = some ⟨n, e, f.self⟩ := by
  obtain ⟨h, c, _, _⟩ := f
  subst hf
  rfl

/-- The loop body registers exactly the tagged attributes; every other one, raising or not,
leaves the registry as it was. -/
theorem scanAttr_eq (r : ToolRegistry H) (a : Option (PyObject H)) :
    scanAttr r a = match tagged a with
      | some t => r.register t.toolName t.handler t.execution
      | none => r := by
  rcases a with _ | ⟨h, _ | _, _ | _ | _, _ | _ | _⟩ <;> rfl

theorem get_scanAttr (r : ToolRegistry H) (a : Option (PyObject H)) (n : String) :
    (scanAttr r a).get n = ((tagged a).filter (·.toolName == n)).or (r.get n) := by
  rw [scanAttr_eq]
  cases tagged a with
  | none => rfl
  | some t =>
    by_cases h : n = t.toolName
    · subst h; simp [ToolRegistry.get_register, Option.filter]
    · simp [ToolRegistry.get_register, Option.filter, h, Ne.symm h]

theorem lastTagged_append (as : List (Option (PyObject H))) (a : Option (PyObject H))
    (n : String) :
    lastTagged (as ++ [a]) n = ((tagged a).filter (·.toolName == n)).or (lastTagged as n) := by
  simp only [lastTagged, List.filterMap_append, List.filter_append, List.getLast?_append]
  cases h : tagged a with
  | none => simp [h, Option.filter]
  | some t => by_cases hn : t.toolName = n <;> simp [h, hn, Option.filter]

/-- **Last writer wins**: after the scan, a name maps to the last attribute tagged with it,
or, when no attribute carries it, to what the registry held before. -/
theorem get_foldl_scanAttr (attrs : List (Option (PyObject H))) (r : ToolRegistry H)
    (n : String) : (attrs.foldl scanAttr r).get n = (lastTagged attrs n).or (r.get n) := by
  induction attrs using List.reverseRecOn with
  | nil => rfl
  | append_singleton as a ih =>
    rw [List.foldl_append, List.foldl_cons, List.foldl_nil, get_scanAttr, ih,
      lastTagged_append, Option.or_assoc]

theorem lastTagged_toolName {attrs : List (Option (PyObject H))} {n : String}
    {t : ToolHandler H} (h : lastTagged attrs n = some t) : t.toolName = n := by
  have := List.mem_filter.1 (List.mem_of_getLast?_eq_some h)
  simpa using this.2

theorem lastTagged_isSome {attrs : List (Option (PyObject H))} {t : ToolHandler H}
    (ht : t ∈ attrs.filterMap tagged) : (lastTagged attrs t.toolName).isSome := by
  unfold lastTagged
  rw [List.getLast?_isSome]
  exact List.ne_nil_of_mem (List.mem_filter.2 ⟨ht, by simp⟩)

theorem mem_keys_iff (r : ToolRegistry H) (n : String) : n ∈ r.keys ↔ (r.get n).isSome := by
  rw [← ToolRegistry.has_iff_get, ToolRegistry.has, decide_eq_true_eq]

/-- Every name the scan meets is a key afterwards. -/
theorem mem_keys_foldl_scanAttr {attrs : List (Option (PyObject H))} (r : ToolRegistry H)
    {t : ToolHandler H} (ht : t ∈ attrs.filterMap tagged) :
    t.toolName ∈ (attrs.foldl scanAttr r).keys := by
  rw [mem_keys_iff, get_foldl_scanAttr]
  obtain ⟨u, hu⟩ := Option.isSome_iff_exists.1 (lastTagged_isSome ht)
  simp [hu]

/-- A scan that only meets names already present keeps the order of the keys. -/
theorem keys_foldl_scanAttr_of_mem :
    ∀ (attrs : List (Option (PyObject H))) (r : ToolRegistry H),
      (∀ t ∈ attrs.filterMap tagged, t.toolName ∈ r.keys) → (attrs.foldl scanAttr r).keys = r.keys
  | [], _, _ => rfl
  | a :: as, r, h => by
    have hkeys : (scanAttr r a).keys = r.keys := by
      rw [scanAttr_eq]
      cases ht : tagged a with
      | none => rfl
      | some t =>
        rw [ToolRegistry.keys_register, if_pos (h t (by simp [ht]))]
    rw [List.foldl_cons, keys_foldl_scanAttr_of_mem as _ fun t ht => ?_, hkeys]
    obtain ⟨x, hx, hxt⟩ := List.mem_filterMap.1 ht
    exact hkeys ▸ h t (List.mem_filterMap.2 ⟨x, List.mem_cons_of_mem _ hx, hxt⟩)

/-- **The scan is idempotent** on the registry it fills. -/
theorem foldl_scanAttr_idem (attrs : List (Option (PyObject H))) (r : ToolRegistry H) :
    attrs.foldl scanAttr (attrs.foldl scanAttr r) = attrs.foldl scanAttr r := by
  refine ToolRegistry.ext ?_ fun n => ?_
  · exact keys_foldl_scanAttr_of_mem attrs _ fun t ht => mem_keys_foldl_scanAttr r ht
  · rw [get_foldl_scanAttr, get_foldl_scanAttr]
    cases lastTagged attrs n <;> rfl

/-- A scan over a registry it leaves unchanged leaves the table unchanged. -/
theorem registerToolHandlers_of_scanned {table : RegistryTable H} {inst : Instance H}
    {r : ToolRegistry H} (h : table inst.id = some r) (hr : inst.attrs.foldl scanAttr r = r) :
    registerToolHandlers table inst = (r, table) := by
  simp only [registerToolHandlers, getToolRegistry, h, hr]
  rw [← h, Function.update_eq_self]

/-- The table holds the registry the scan returns. -/
theorem registerToolHandlers_snd_self (table : RegistryTable H) (inst : Instance H) :
    (registerToolHandlers table inst).2 inst.id = some (registerToolHandlers table inst).1 := by
  simp [registerToolHandlers]

/-- Scanning the same instance again changes neither the registry nor the table. -/
theorem registerToolHandlers_idem (table : RegistryTable H) (inst : Instance H) :
    registerToolHandlers (registerToolHandlers table inst).2 inst = registerToolHandlers table inst :=
  registerToolHandlers_of_scanned (registerToolHandlers_snd_self table inst) (foldl_scanAttr_idem _ _)

/-- **`register_tool_handlers`.**  For every instance and every prior content of its
registry: the scan returns the registry that `get_tool_registry(instance)` then holds; each
name maps to the entry `(name, attribute, execution)` of the last attribute in `dir()` order
tagged with it, and every name no attribute carries keeps its entry (an attribute whose
access or tag lookup raises contributes nothing, and the scan goes on past it); if every
entry was filed under its own `tool_name`, every entry still is; and scanning again gives
the same registry and table. -/
theorem register_tool_handlers_spec (table : RegistryTable H) (inst : Instance H) :
    (registerToolHandlers table inst).2 inst.id = some (registerToolHandlers table inst).1 ∧
    (∀ n, (registerToolHandlers table inst).1.get n =
      (lastTagged inst.attrs n).or ((getToolRegistry table inst.id).1.get n)) ∧
    ((∀ n t, (getToolRegistry table inst.id).1.get n = some t → t.toolName = n) →
      ∀ n t, (registerToolHandlers table inst).1.get n = some t → t.toolName = n) ∧
    registerToolHandlers (registerToolHandlers table inst).2 inst =
      registerToolHandlers table inst := by
  refine ⟨registerToolHandlers_snd_self table inst, get_foldl_scanAttr _ _, fun hprior n t h => ?_,
    registerToolHandlers_idem table inst⟩
  · rw [registerToolHandlers, get_foldl_scanAttr] at h
    cases hl : lastTagged inst.attrs n with
    | none => rw [hl, Option.none_or] at h; exact hprior n t h
    | some u => rw [hl, Option.or_some, Option.some.injEq] at h; exact h ▸ lastTagged_toolName hl


/-! ## The order of the names -/

section EraseDups

variable {α : Type} [DecidableEq α]

/-- The loop of `List.eraseDups` is the fold that appends an element unless it is already
there: the order of `dict` keys under repeated assignment. -/
theorem eraseDups_loop (as bs : List α) :
    List.eraseDups.loop as bs =
      as.foldl (fun acc a => if a ∈ acc then acc else acc ++ [a]) bs.reverse := by
  induction as generalizing bs with
  | nil => rfl
  | cons a as ih =>
    by_cases h : a ∈ bs
    · simp [List.eraseDups.loop, List.elem_eq_mem, h, ih]
    · simp [List.eraseDups.loop, List.elem_eq_mem, h, ih]

theorem eraseDups_append_singleton (l : List α) (a : α) :
    (l ++ [a]).eraseDups = if a ∈ l.eraseDups then l.eraseDups else l.eraseDups ++ [a] := by
  simp only [List.eraseDups, eraseDups_loop, List.foldl_append, List.foldl_cons, List.foldl_nil]

theorem eraseDups_of_nodup {l : List α} (h : l.Nodup) : l.eraseDups = l := by
  induction l using List.reverseRecOn with
  | nil => rfl
  | append_singleton l a ih =>
    rw [List.nodup_append] at h
    rw [eraseDups_append_singleton, ih h.1, if_neg fun ha => h.2.2 ha (List.mem_singleton_self a)]

end EraseDups

/-- The keys after the scan: the registry's own, then the tagged names, each once, at its
first occurrence. -/
theorem keys_foldl_scanAttr (attrs : List (Option (PyObject H))) (r : ToolRegistry H) :
    (attrs.foldl scanAttr r).keys =
      (r.keys ++ (attrs.filterMap tagged).map (·.toolName)).eraseDups := by
  induction attrs using List.reverseRecOn with
  | nil => simpa using (eraseDups_of_nodup r.nodup).symm
  | append_singleton as a ih =>
    rw [List.foldl_append, List.foldl_cons, List.foldl_nil, scanAttr_eq, List.filterMap_append]
    cases ht : tagged a with
    | none => simpa [ht] using ih
    | some t =>
      rw [ToolRegistry.keys_register, ih]
      simp [ht, ← List.append_assoc, eraseDups_append_singleton]

/-- **The order of the registered names.**  After `register_tool_handlers`, the keys of the
registry (what `get_registered_tools()` returns) are the names the instance's registry held
before, in their order, followed by each newly discovered name once, at the place of the first
attribute in `dir()` order tagged with it. -/
theorem registered_names_order (table : RegistryTable H) (inst : Instance H) :
    (registerToolHandlers table inst).1.keys =
      ((getToolRegistry table inst.id).1.keys ++
        (inst.attrs.filterMap tagged).map (·.toolName)).eraseDups :=
  keys_foldl_scanAttr _ _

/-! ## The table across instances -/

/-- A scan writes only the entry of its own instance. -/
theorem registerToolHandlers_snd_of_ne (table : RegistryTable H) (inst : Instance H) {i : Nat}
    (hi : i ≠ inst.id) : (registerToolHandlers table inst).2 i = table i := by
  simp [registerToolHandlers, getToolRegistry_snd, Function.update_noteq hi]

/-- **The registry table across instances.**  Scanning an instance leaves the entry of every
other `id` as it was.  An instance `b` whose `id` was used by an earlier scanned instance `a`
(CPython reuses the `id` of a collected object) starts from `a`'s registry: a name maps to
`b`'s last attribute tagged with it, or else to `a`'s, or else to what the entry held before
`a`.  After `clear_tool_registry` of that `id` the scan starts from an empty registry: `b`
gets its own tagged handlers and names alone. -/
theorem registry_table_instances (table : RegistryTable H) (a b : Instance H) :
    (a.id ≠ b.id → (registerToolHandlers table b).2 a.id = table a.id) ∧
    (a.id = b.id → ∀ n, (registerToolHandlers (registerToolHandlers table a).2 b).1.get n =
      (lastTagged b.attrs n).or
        ((lastTagged a.attrs n).or ((getToolRegistry table a.id).1.get n))) ∧
    (∀ n, (registerToolHandlers (clearToolRegistry table b.id) b).1.get n =
      lastTagged b.attrs n) ∧
    (registerToolHandlers (clearToolRegistry table b.id) b).1.keys =
      ((b.attrs.filterMap tagged).map (·.toolName)).eraseDups := by
  -- the registry a scan starts from after a clear
  have hclear := getToolRegistry_clear table b.id
  refine ⟨registerToolHandlers_snd_of_ne table b, fun hab n => ?_, fun n => ?_, ?_⟩
  · rw [registerToolHandlers, get_foldl_scanAttr, ← hab, getToolRegistry_fst,
      registerToolHandlers_snd_self, Option.getD_some, registerToolHandlers, get_foldl_scanAttr]
  · rw [registerToolHandlers, get_foldl_scanAttr, hclear]
    exact Option.or_none
  · rw [registerToolHandlers, keys_foldl_scanAttr, hclear]
    rfl

/-- Instance `a` (`id` 7) tags a `Bash` tool; after it is gone, instance `b` gets the same
`id` and tags nothing, yet its scan finds `a`'s `Bash` handler. -/
theorem registry_table_instances_reused_id :
    let a : Instance Unit :=
      ⟨7, [some (claudeTool "Bash" .workflow ⟨(), true, .missing, .missing⟩)]⟩
    let b : Instance Unit := ⟨7, []⟩
    a.id = b.id ∧
      (registerToolHandlers (registerToolHandlers (fun _ => none) a).2 b).1.get "Bash" =
        some ⟨"Bash", .workflow, ()⟩ := by
  intro a b
  refine ⟨rfl, ?_⟩
  rw [(registry_table_instances (fun _ => none) a b).2.1 rfl "Bash"]
  rfl

end ClaudeAgent
