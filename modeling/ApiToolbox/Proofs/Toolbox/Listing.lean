import ApiToolbox.Proofs.Toolbox.Required

/-! What is listed is what can be called. The tools and the lines of the list of operations name the same
operations in the same order, a call finds the one that its name is listed for and fails by name for any
other, and the list itself is a tool that calls nothing. -/

namespace ApiToolbox

open Json (Value)

theorem head?_toList_append {s : String} {c : Char} (h : s.toList.head? = some c) (t : String) :
    (s ++ t).toList.head? = some c := by
  rw [String.toList_append, List.head?_append, h]
  rfl

/-- No other failure that the caller can mend is told in words that begin like those for an unknown
tool. -/
theorem Failure.head?_message {f : Failure} (hkind : f.kind = .input) :
    (∃ n, f = .unknownTool n) ∨ ∃ c ∈ ['A', 'C', 'I', 'M', 'R'], f.message.toList.head? = some c := by
  cases f with
  | unknownTool n => exact .inl ⟨n, rfl⟩
  | arguments cause =>
    right
    cases cause with
    | notObject kind => exact ⟨'A', by decide, head?_toList_append (by decide) _⟩
    | missingQuery n => exact ⟨'M', by decide, head?_toList_append (by decide) _⟩
    | invalid n kind =>
      have hfirst := head?_toList_append (s := "Invalid value for '") (c := 'I') (by decide) n
      exact ⟨'I', by decide, head?_toList_append (head?_toList_append hfirst _) _⟩
  | url cause =>
    right
    cases cause with
    | missingPath n => exact ⟨'M', by decide, head?_toList_append (by decide) _⟩
    | malformed tool cause =>
      have hfirst := head?_toList_append (s := "Cannot build request URL for '") (c := 'C') (by decide)
        tool
      exact ⟨'C', by decide, head?_toList_append (head?_toList_append hfirst _) _⟩
  | body cause =>
    right
    refine ⟨'R', by decide, ?_⟩
    cases cause with
    | invalidJson cause => exact head?_toList_append (by decide) _
    | _ => decide
  | _ => cases hkind

theorem Failure.eq_unknownTool_of_message {f : Failure} {name : String} (hkind : f.kind = .input)
    (h : f.message = "Unknown tool: " ++ name) : f = .unknownTool name := by
  have hhead : f.message.toList.head? = some 'U' := h ▸ head?_toList_append (by decide) name
  rcases Failure.head?_message hkind with ⟨n, rfl⟩ | ⟨c, hc, hother⟩
  · rw [(String.append_right_inj _).mp h]
  · obtain rfl := Option.some.inj (hhead.symm.trans hother)
    exact absurd hc (by decide)

namespace Toolbox

variable {b : Toolbox} {docs : List PathDocument} {d : Discovery} {op : Operation}

/-- Call an operation with arguments that have been read. -/
def perform {m : Type → Type} [Monad m] (b : Toolbox) (e : Environment)
    (exchange : Request → m (Except ExchangeError Response)) (op : Operation)
    (given : Members Value) : m (Except Failure Outcome) :=
  match b.request e op given with
  | .error f => return .error f
  | .ok r => send exchange r

theorem dispatch_of_get? {m : Type → Type} [Monad m] {name : String}
    (h : b.registry.get? name = some op) (e : Environment)
    (exchange : Request → m (Except ExchangeError Response)) (args : Value) :
    b.dispatch e exchange name args =
      match (InputSchema.ofOperation op).validate args with
      | .error cause => return .error (.arguments cause)
      | .ok given => b.perform e exchange op given := by
  rw [dispatch, prepare_eq, h]
  cases hgiven : (InputSchema.ofOperation op).validate args with
  | error cause => simp only [hgiven]
  | ok given =>
    simp only [hgiven]
    rfl

theorem dispatched_of_get?_eq_none {name : String} (h : b.registry.get? name = none) (e : Environment)
    (args : Value) (respond : Request → Except ExchangeError Response) :
    b.dispatched e name args respond = (.error (.unknownTool name), []) := by
  refine dispatched_of_error ?_
  rw [prepare_eq, h]

theorem map_tool_rows (b : Toolbox) : b.rows.map (·.tool) = b.registry.operations.map (·.tool) := by
  simp [rows, Function.comp_def]

theorem names_tools (b : Toolbox) :
    b.tools.map (·.name) = ToolName.reserved :: b.rows.map (·.tool) := by
  simp [tools, rows, Tool.listing, Operation.asTool, Function.comp_def]

theorem nodup_names_tools (hb : b.registry = Registry.build docs d) :
    (b.tools.map (·.name)).Nodup := by
  rw [names_tools, map_tool_rows, hb, List.nodup_cons]
  refine ⟨fun hmem => ?_, Registry.nodup_tools_build docs d⟩
  obtain ⟨op, hop, heq⟩ := List.mem_map.mp hmem
  exact (Registry.tool_of_mem_build hop).1 heq

theorem callable?_eq_some_iff (hb : b.registry = Registry.build docs d) (name : String)
    (c : Callable) :
    b.callable? name = some c ↔ c ∈ b.callables ∧ c.operation.tool = name := by
  have hget := Registry.get?_build_eq_some_iff docs d name
  rw [← hb] at hget
  simp only [callable?_eq, Option.map_eq_some_iff, hget, callables, List.mem_map]
  constructor
  · rintro ⟨op, ⟨hop, htool⟩, rfl⟩
    exact ⟨⟨op, hop, rfl⟩, htool⟩
  · rintro ⟨⟨op, hop, rfl⟩, htool⟩
    exact ⟨op, ⟨hop, htool⟩, rfl⟩

theorem get?_eq_none_iff (hb : b.registry = Registry.build docs d) (name : String) :
    b.registry.get? name = none ↔ name ∉ b.rows.map (·.tool) := by
  rw [map_tool_rows]
  constructor
  · intro hnone hmem
    obtain ⟨op, hop, rfl⟩ := List.mem_map.mp hmem
    rw [get?_of_mem hb hop] at hnone
    cases hnone
  · intro hnot
    rw [Option.eq_none_iff_forall_ne_some]
    intro op hop
    rw [hb, Registry.get?_build_eq_some_iff, ← hb] at hop
    exact hnot (List.mem_map.mpr ⟨op, hop⟩)

/-- A call fails for want of its tool exactly when no operation has the name. -/
theorem dispatched_unknown_iff (hb : b.registry = Registry.build docs d) (e : Environment)
    (name : String) (args : Value) (respond : Request → Except ExchangeError Response) :
    (∃ f, (b.dispatched e name args respond).1 = .error f ∧ f.kind = .input ∧
      f.message = "Unknown tool: " ++ name) ↔ name ∉ b.rows.map (·.tool) := by
  rw [← get?_eq_none_iff hb]
  constructor
  · rintro ⟨f, hf, hkind, hmessage⟩
    obtain rfl := Failure.eq_unknownTool_of_message hkind hmessage
    cases (refuses_of_dispatched hf (by simp [Failure.kind])).1 with
    | tool h => exact h
  · intro hnone
    exact ⟨.unknownTool name, by rw [dispatched_of_get?_eq_none hnone], rfl, rfl⟩

/-- The tools that are advertised, the lines of the list of operations and what calls find agree. -/
structure Consistent (b : Toolbox) : Prop where
  /-- The list of operations comes first among the tools, then what it lists, in its order. -/
  names : b.tools.map (·.name) = ToolName.reserved :: b.rows.map (·.tool)
  nodup : (b.tools.map (·.name)).Nodup
  /-- Calls find exactly the operations, each by its name. -/
  found : ∀ name c, b.callable? name = some c ↔ c ∈ b.callables ∧ c.operation.tool = name
  unknown : ∀ e name args respond, (∃ f, (b.dispatched e name args respond).1 = .error f ∧
    f.kind = .input ∧ f.message = "Unknown tool: " ++ name) ↔ name ∉ b.rows.map (·.tool)
  /-- A name that is listed is that of one operation. A call reads its arguments against the input of that
  operation, and calls it with what it has read. -/
  known : ∀ name ∈ b.rows.map (·.tool), ∃ op ∈ b.registry.operations, op.tool = name ∧
    (∀ other ∈ b.registry.operations, other.tool = name → other = op) ∧
    ∀ {m : Type → Type} [Monad m] (e : Environment)
      (exchange : Request → m (Except ExchangeError Response)) (args : Value),
      b.dispatch e exchange name args =
        match (InputSchema.ofOperation op).validate args with
        | .error cause => return .error (.arguments cause)
        | .ok given => b.perform e exchange op given
  /-- The list of operations is called without an exchange. -/
  listing : ∀ {m : Type → Type} [Monad m] (e : Environment)
    (exchange : Request → m (Except ExchangeError Response)) (args : Value),
    b.call e exchange ToolName.reserved args = return b.listing
  counted : ∃ ms : Members Value, b.listing = .value (.object ms) false ∧
    ms.get? "count" = some (.int b.rows.length) ∧
    ms.get? "operations" = some (.array (b.rows.map fun r => .object r.members))

/-- Whatever documents a toolbox is made of, what it lists is what can be called. -/
theorem consistent (docs : List PathDocument) (d : Discovery) (baseUrl : Url)
    (tokenVariables : List String) (timeout : Option Nat) :
    Consistent ⟨Registry.build docs d, baseUrl, tokenVariables, timeout⟩ := by
  set b : Toolbox := ⟨Registry.build docs d, baseUrl, tokenVariables, timeout⟩
  have hb : b.registry = Registry.build docs d := rfl
  exact
    { names := names_tools b
      nodup := nodup_names_tools hb
      found := callable?_eq_some_iff hb
      unknown := dispatched_unknown_iff hb
      known := by
        intro name hname
        rw [map_tool_rows] at hname
        obtain ⟨op, hop, rfl⟩ := List.mem_map.mp hname
        refine ⟨op, hop, rfl, ?_, fun e exchange args => dispatch_of_get? (get?_of_mem hb hop) e exchange args⟩
        intro other hother htool
        have hsame := htool ▸ get?_of_mem hb hother
        exact Option.some.inj (hsame.symm.trans (get?_of_mem hb hop))
      listing := fun e exchange args => if_pos rfl
      counted := ⟨_, rfl, rfl, rfl⟩ }

end Toolbox
end ApiToolbox
