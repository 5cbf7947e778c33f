import Mathlib.Logic.Function.Basic
import Mathlib.Data.List.Nodup

/-!
# The tool registry

Model of `ToolHandler`, `ToolRegistry` and the module-level registry table of
`_tool_decorator.py`:

* `setItem` — the assignment `d[k] = v` on a Python `dict` kept as its items in insertion
  order: a key already present keeps its place and takes the new value, a new key goes last.
* `ToolRegistry` — `handlers : dict[str, ToolHandler]`.  The structure carries the fact that
  no name occurs twice, so `register` / `get` / `has` are the dict's own operations.
* `RegistryTable` — `_WORKFLOW_TOOL_REGISTRY`, keyed by `id(workflow_instance)`, with
  `getToolRegistry` (an empty registry on first use) and `clearToolRegistry`.

Results: `get_register` (last writer wins), `keys_register` (a new name goes last, an old
one keeps its place), `has_iff_get` and `ToolRegistry.ext` (two registries with the same
names in the same order and the same lookups are equal).
-/

set_option autoImplicit false

namespace ClaudeAgent

/-- `Literal["claude", "activity", "workflow"]`: where a tool runs. -/
inductive Execution where
  | claude
  | activity
  | workflow
  deriving DecidableEq, Repr

/-- `ToolHandler`: the metadata of a registered handler; `handler` is the callable itself. -/
structure ToolHandler (H : Type) where
  toolName : String
  execution : Execution
  handler : H
  deriving DecidableEq, Repr

/-! ## Dict assignment -/

section Dict

variable {β : Type}

/-- `d[k] = v`. -/
def setItem (k : String) (v : β) : List (String × β) → List (String × β)
  | [] => [(k, v)]
  | (k', v') :: rest => if k' = k then (k, v) :: rest else (k', v') :: setItem k v rest

theorem keys_setItem (k : String) (v : β) (l : List (String × β)) :
    (setItem k v l).map Prod.fst =
      if k ∈ l.map Prod.fst then l.map Prod.fst else l.map Prod.fst ++ [k] := by
  induction l with
  | nil => simp [setItem]
  | cons p rest ih =>
    by_cases h : p.1 = k
    · simp [setItem, h]
    · simp only [setItem, h, if_false, List.map_cons, ih, List.mem_cons, Ne.symm h, false_or]
      split <;> simp

theorem lookup_cons_ite (k k' : String) (v : β) (l : List (String × β)) :
    ((k, v) :: l).lookup k' = if k' = k then some v else l.lookup k' := by
  by_cases h : k' = k
  · subst h; simp
  · rw [List.lookup_cons, beq_eq_false_iff_ne.2 h, if_neg h]

theorem lookup_setItem (k : String) (v : β) (l : List (String × β)) (k' : String) :
    (setItem k v l).lookup k' = if k' = k then some v else l.lookup k' := by
  induction l with
  | nil => simp [setItem, lookup_cons_ite]
  | cons p rest ih =>
    obtain ⟨k₀, v₀⟩ := p
    by_cases hp : k₀ = k
    · subst hp
      by_cases h : k' = k₀ <;> simp [setItem, lookup_cons_ite, h]
    · simp only [setItem, hp, if_false, lookup_cons_ite, ih]
      by_cases h : k' = k
      · subst h; simp [Ne.symm hp]
      · simp [h]

theorem nodup_setItem {k : String} {v : β} {l : List (String × β)}
    (h : (l.map Prod.fst).Nodup) : ((setItem k v l).map Prod.fst).Nodup := by
  rw [keys_setItem]
  split
  · exact h
  · rename_i hk
    exact List.nodup_append.2 ⟨h, List.nodup_singleton k, by simpa using hk⟩

/-- Two item lists without repeated keys, with the same keys in the same order and the same
lookups, are equal. -/
theorem eq_of_keys_lookup : ∀ {l₁ l₂ : List (String × β)}, (l₁.map Prod.fst).Nodup →
    l₁.map Prod.fst = l₂.map Prod.fst → (∀ k, l₁.lookup k = l₂.lookup k) → l₁ = l₂
  | [], [], _, _, _ => rfl
  | (k₁, v₁) :: r₁, (k₂, v₂) :: r₂, hn, hk, hl => by
    simp only [List.map_cons, List.cons.injEq] at hk
    obtain ⟨rfl, hr⟩ := hk
    have hv : v₁ = v₂ := by simpa using hl k₁
    have hfresh : k₁ ∉ r₁.map Prod.fst := (List.nodup_cons.1 hn).1
    have hrest : ∀ k, r₁.lookup k = r₂.lookup k := fun k => by
      by_cases h : k = k₁
      · subst h
        have h₂ : k ∉ r₂.map Prod.fst := hr ▸ hfresh
        simp only [List.mem_map, not_exists, not_and] at hfresh h₂
        rw [List.lookup_eq_none_iff.2 fun p hp => by simpa using (hfresh p hp ∘ Eq.symm),
          List.lookup_eq_none_iff.2 fun p hp => by simpa using (h₂ p hp ∘ Eq.symm)]
      · simpa [lookup_cons_ite, h] using hl k
    rw [hv, eq_of_keys_lookup (List.nodup_cons.1 hn).2 hr hrest]

end Dict

/-! ## The registry -/

/-- `ToolRegistry`: `handlers` is a `dict[str, ToolHandler]`, so no name occurs twice. -/
structure ToolRegistry (H : Type) where
  handlers : List (String × ToolHandler H)
  nodup : (handlers.map Prod.fst).Nodup

namespace ToolRegistry

variable {H : Type}

/-- `ToolRegistry()`: `handlers` defaults to an empty dict. -/
def empty : ToolRegistry H := ⟨[], List.nodup_nil⟩

/-- `list(registry.handlers.keys())`. -/
def keys (r : ToolRegistry H) : List String := r.handlers.map Prod.fst

/-- `register(tool_name, handler, execution)`. -/
def register (r : ToolRegistry H) (toolName : String) (handler : H) (execution : Execution) :
    ToolRegistry H :=
  ⟨setItem toolName ⟨toolName, execution, handler⟩ r.handlers, nodup_setItem r.nodup⟩

/-- `get(tool_name)`: `self.handlers.get(tool_name)`. -/
def get (r : ToolRegistry H) (toolName : String) : Option (ToolHandler H) :=
  r.handlers.lookup toolName

/-- `has(tool_name)`: `tool_name in self.handlers`. -/
def has (r : ToolRegistry H) (toolName : String) : Bool := decide (toolName ∈ r.keys)

@[simp] theorem keys_empty : (empty : ToolRegistry H).keys = [] := rfl

@[simp] theorem get_empty (n : String) : (empty : ToolRegistry H).get n = none := rfl

theorem get_register (r : ToolRegistry H) (n : String) (h : H) (e : Execution) (n' : String) :
    (r.register n h e).get n' = if n' = n then some ⟨n, e, h⟩ else r.get n' :=
  lookup_setItem _ _ _ _

theorem keys_register (r : ToolRegistry H) (n : String) (h : H) (e : Execution) :
    (r.register n h e).keys = if n ∈ r.keys then r.keys else r.keys ++ [n] :=
  keys_setItem _ _ _

theorem has_iff_get (r : ToolRegistry H) (n : String) : r.has n = true ↔ (r.get n).isSome := by
  simp only [has, decide_eq_true_eq, get, keys, List.lookup_isSome_iff, beq_iff_eq, List.mem_map]
  exact ⟨fun ⟨p, hp, e⟩ => ⟨p, hp, e.symm⟩, fun ⟨p, hp, e⟩ => ⟨p, hp, e.symm⟩⟩

/-- A registry is determined by its names, in order, and their lookups. -/
theorem ext {r s : ToolRegistry H} (hk : r.keys = s.keys) (hg : ∀ n, r.get n = s.get n) :
    r = s := by
  obtain ⟨l₁, h₁⟩ := r
  obtain ⟨l₂, h₂⟩ := s
  have : l₁ = l₂ := eq_of_keys_lookup h₁ hk hg
  subst this
  rfl

/-- After `register`, `has` holds for the name, whatever was there before. -/
theorem has_register (r : ToolRegistry H) (n : String) (h : H) (e : Execution) :
    (r.register n h e).has n = true := by
  simp [has_iff_get, get_register]

end ToolRegistry

/-! ## The registry table -/

/-- `_WORKFLOW_TOOL_REGISTRY: dict[int, ToolRegistry]`, keyed by `id(workflow_instance)`. -/
abbrev RegistryTable (H : Type) := Nat → Option (ToolRegistry H)

variable {H : Type}

/-- `get_tool_registry(workflow_instance)`: the instance's registry, created empty on first
use. -/
def getToolRegistry (table : RegistryTable H) (instanceId : Nat) :
    ToolRegistry H × RegistryTable H :=
  match table instanceId with
  | some r => (r, table)
  | none => (.empty, Function.update table instanceId (some .empty))

/-- `clear_tool_registry(workflow_instance)`. -/
def clearToolRegistry (table : RegistryTable H) (instanceId : Nat) : RegistryTable H :=
  Function.update table instanceId none

theorem getToolRegistry_fst (table : RegistryTable H) (i : Nat) :
    (getToolRegistry table i).1 = (table i).getD .empty := by
  unfold getToolRegistry; split <;> simp_all

theorem getToolRegistry_snd (table : RegistryTable H) (i : Nat) :
    (getToolRegistry table i).2 = Function.update table i (some (getToolRegistry table i).1) := by
  unfold getToolRegistry; split
  · rename_i r hr; simp [← hr]
  · rfl

/-- A registry left under an `id` is what the next instance with that `id` starts from, until
`clear_tool_registry` drops it. -/
theorem getToolRegistry_clear (table : RegistryTable H) (i : Nat) :
    (getToolRegistry (clearToolRegistry table i) i).1 = .empty := by
  simp [getToolRegistry_fst, clearToolRegistry]

end ClaudeAgent
