import ApiToolbox.Proofs.InputSchema
import ApiToolbox.Proofs.Json.Equality
import ApiToolbox.Proofs.Toolbox.Call

/-! Arguments that agree where they are read. A call depends on its arguments through the names of its
input alone: unknown names, the order in which arguments are given, and nulls in place of arguments that
are not given make no difference to what is sent or to what is refused. -/

namespace ApiToolbox

open Json (Value)

namespace InputSchema

/-- Arguments that hold the same under every name of an input, where null counts as nothing. -/
def Agree (s : InputSchema) (args args' : Value) : Prop :=
  ∀ f ∈ s.fields, argument? args f.name = argument? args' f.name

theorem Agree.trans {s : InputSchema} {args args' args'' : Value} (h : s.Agree args args')
    (h' : s.Agree args' args'') : s.Agree args args'' :=
  fun f hf => (h f hf).trans (h' f hf)

variable {s : InputSchema} {args args' : Members Value}

/-! ### What agrees -/

/-- The order in which arguments are given does not matter. -/
theorem agree_of_perm (h : args.Perm args') (hkeys : args.keys.Nodup) :
    s.Agree (.object args) (.object args') := by
  intro f _
  have hkeys' : args'.keys.Nodup := (h.map Prod.fst).nodup_iff.mp hkeys
  have hget : args.get? f.name = args'.get? f.name := by
    apply Option.ext
    intro v
    rw [Members.get?_eq_some_iff_mem hkeys, Members.get?_eq_some_iff_mem hkeys']
    exact h.mem_iff
  show (args.get? f.name).filter _ = (args'.get? f.name).filter _
  rw [hget]

/-- Arguments of unknown names, and those that are null, can be left out. -/
theorem agree_filter (hkeys : args.keys.Nodup) (p : String × Value → Bool)
    (hp : ∀ m ∈ args, m.1 ∈ s.fields.map (·.name) → m.2.isNull = false → p m = true) :
    s.Agree (.object args) (.object (args.filter p)) := by
  intro f hf
  have hname : f.name ∈ s.fields.map (·.name) := List.mem_map_of_mem hf
  have hkept : (Members.keys (args.filter p)).Nodup := (List.filter_sublist.map Prod.fst).nodup hkeys
  show (args.get? f.name).filter _ = (Members.get? f.name (args.filter p)).filter _
  apply Option.ext
  intro v
  rw [Option.filter_eq_some_iff, Option.filter_eq_some_iff, Members.get?_eq_some_iff_mem hkeys,
    Members.get?_eq_some_iff_mem hkept, List.mem_filter]
  constructor
  · rintro ⟨hmem, hnull⟩
    exact ⟨⟨hmem, hp _ hmem hname (by simpa using hnull)⟩, hnull⟩
  · rintro ⟨⟨hmem, -⟩, hnull⟩
    exact ⟨hmem, hnull⟩

/-! ### Reading what agrees -/

theorem readFields_congr {fs : List Field} (h : ∀ f ∈ fs,
      (args.get? f.name).filter (!·.isNull) = (args'.get? f.name).filter (!·.isNull)) :
    readFields args fs = readFields args' fs := by
  induction fs with
  | nil => rfl
  | cons f rest ih =>
    have hf := h f List.mem_cons_self
    have hrest := ih fun g hg => h g (List.mem_cons_of_mem f hg)
    rw [readFields, readFields, hf, hrest]

theorem validate_congr (h : s.Agree (.object args) (.object args')) :
    s.validate (.object args) = s.validate (.object args') :=
  readFields_congr h

end InputSchema

namespace Toolbox

variable {b : Toolbox} {name : String} {args args' : Members Value}

theorem prepare_congr (e : Environment) (h : ∀ op, b.registry.get? name = some op →
      (InputSchema.ofOperation op).Agree (.object args) (.object args')) :
    b.prepare e name (.object args) = b.prepare e name (.object args') := by
  rw [prepare_eq, prepare_eq]
  cases hop : b.registry.get? name with
  | none => rfl
  | some op =>
    simp only
    rw [InputSchema.validate_congr (h op hop)]

/-- Arguments that agree under the names of the input of a tool are refused for the same reason, with
nothing handed over, or they make the same request and come to the same outcome. This holds of any exchange,
whatever it keeps from one request to the next. -/
theorem dispatch_of_agree (b : Toolbox) (e : Environment) (name : String) {args args' : Members Value}
    (h : ∀ op, b.registry.get? name = some op →
      (InputSchema.ofOperation op).Agree (.object args) (.object args')) :
    (∀ respond,
      (∃ f, b.dispatched e name (.object args) respond = (.error f, []) ∧
        b.dispatched e name (.object args') respond = (.error f, [])) ∨
      ∃ r result, b.dispatched e name (.object args) respond = (result, [r]) ∧
        b.dispatched e name (.object args') respond = (result, [r])) ∧
    ∀ {m : Type → Type} [Monad m] (exchange : Request → m (Except ExchangeError Response)),
      b.dispatch e exchange name (.object args) = b.dispatch e exchange name (.object args') := by
  have hprepare := prepare_congr e h
  constructor
  · intro respond
    cases hr : b.prepare e name (.object args) with
    | error f =>
      have hr' : b.prepare e name (.object args') = .error f := hprepare ▸ hr
      exact .inl ⟨f, dispatched_of_error hr, dispatched_of_error hr'⟩
    | ok r =>
      have hr' : b.prepare e name (.object args') = .ok r := hprepare ▸ hr
      rw [dispatched_of_ok hr, dispatched_of_ok hr']
      by_cases hsendable : r.isSendable
      · rw [if_pos hsendable]
        exact .inr ⟨r, _, rfl, rfl⟩
      · rw [if_neg hsendable]
        exact .inl ⟨_, rfl, rfl⟩
  · intro m _ exchange
    rw [dispatch, dispatch, hprepare]

/-- A name that stands in the path and in the query, with nulls, unknown names and another order. -/
theorem dispatch_of_agree_items :
    let decl : OperationDecl := ⟨.put, none, none, [.declare "id" .query false none .integer none,
      .declare "tags" .query false none .array none], some ⟨true, none⟩⟩
    let doc : PathDocument := ⟨"/items/\x7bid\x7d", [.declare "id" .path true none .string none], [decl]⟩
    let base : Url := ⟨"http", some ⟨"", "", .ipv4 2130706433, some 8080⟩, .segments [""], none, none⟩
    let b : Toolbox := ⟨Registry.build [doc] (.all true), base, ["API_TOKEN"], none⟩
    let e : Environment := ⟨[("API_TOKEN", "secret")]⟩
    let body : Value := .object [("b", .int 1), ("a", .null)]
    let args : Members Value := [("more", .string "x"), ("body", body), ("tags", .null), ("id", .int 7)]
    let args' : Members Value := [("id", .int 7), ("body", body)]
    let respond (_ : Request) : Except ExchangeError Response := .ok ⟨200, [], []⟩
    (∀ op, b.registry.get? "items_id" = some op →
      (InputSchema.ofOperation op).Agree (.object args) (.object args')) ∧
      ∃ r, (b.dispatched e "items_id" (.object args) respond).2 = [r] ∧
        (b.dispatched e "items_id" (.object args') respond).2 = [r] := by
  intro decl doc base b e body args args' respond
  have hget : b.registry.get? "items_id" = some (Registry.operation "items_id" doc decl) := by
    decide +kernel
  have hagree : ∀ op, b.registry.get? "items_id" = some op →
      (InputSchema.ofOperation op).Agree (.object args) (.object args') := by
    intro op hop
    obtain rfl := Option.some.inj (hget.symm.trans hop)
    have hknown : (InputSchema.ofOperation (Registry.operation "items_id" doc decl)).Agree
        (.object args) (.object (args.filter fun m => !m.2.isNull && m.1 ≠ "more")) :=
      InputSchema.agree_filter (by decide) _ (by decide +kernel)
    exact hknown.trans (InputSchema.agree_of_perm (.swap _ _ []) (by decide))
  have hsent : (b.dispatched e "items_id" (.object args) respond).2.length = 1 := by decide +kernel
  refine ⟨hagree, ?_⟩
  rcases (dispatch_of_agree b e "items_id" hagree).1 respond with ⟨f, hf, -⟩ | ⟨r, result, hr, hr'⟩
  · rw [hf] at hsent
    cases hsent
  · exact ⟨r, by rw [hr], by rw [hr']⟩

end Toolbox
end ApiToolbox
