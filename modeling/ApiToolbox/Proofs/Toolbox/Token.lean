import ApiToolbox.Proofs.Toolbox.Call

/-! Where the token of a call comes from. The variables are looked at in order up to the first that is not blank,
and nothing else of the environment makes a difference to a call. Where there is none, a call with arguments
that can be read says so before it looks at the address and the body. -/

namespace ApiToolbox

open Json (Value)

namespace Environment

variable {e e' : Environment} {name value : String}

/-- A variable that is unset or holds nothing but white space. -/
def IsBlank (e : Environment) (name : String) : Prop :=
  ∀ value, e.get? name = some value → Text.isBlankText value = true

instance (e : Environment) (name : String) : Decidable (e.IsBlank name) :=
  decidable_of_iff ((e.get? name).all Text.isBlankText = true) (by
    rw [IsBlank, Option.all_eq_true])

theorem nonBlank?_eq_none (h : e.IsBlank name) : e.nonBlank? name = none := by
  rw [nonBlank?]
  cases hget : e.get? name with
  | none => rfl
  | some value => simp [Text.nonBlank?, h value hget]

theorem nonBlank?_eq_some (h : e.get? name = some value) (hvalue : Text.isBlankText value = false) :
    e.nonBlank? name = some (Text.trimmed value) := by
  simp [nonBlank?, h, Text.nonBlank?, hvalue]

/-- Among variables, those that are looked at, which are the ones up to the first that is not blank, and the
value of that one. -/
inductive Decides (e : Environment) : List String → List String → String → Prop where
  | here {name value : String} {rest : List String} (h : e.get? name = some value)
      (hvalue : Text.isBlankText value = false) : Decides e (name :: rest) [name] value
  | next {name value : String} {rest looked : List String} (h : e.IsBlank name)
      (hrest : Decides e rest looked value) : Decides e (name :: rest) (name :: looked) value

variable {names looked : List String}

theorem Decides.findSome? (h : e.Decides names looked value) :
    names.findSome? e.nonBlank? = some (Text.trimmed value) := by
  induction h with
  | here h hvalue => rw [List.findSome?_cons, nonBlank?_eq_some h hvalue]
  | next h _ ih => rw [List.findSome?_cons, nonBlank?_eq_none h, ih]

/-- What decides in an environment decides in any that has the same under the names that are looked at. -/
theorem Decides.congr (h : e.Decides names looked value) (hsame : ∀ n ∈ looked, e'.get? n = e.get? n) :
    e'.Decides names looked value := by
  induction h with
  | here h hvalue => exact .here ((hsame _ List.mem_cons_self).trans h) hvalue
  | next h _ ih =>
    obtain ⟨hname, hrest⟩ := List.forall_mem_cons.mp hsame
    refine .next (fun v hv => h v ?_) (ih hrest)
    rwa [← hname]

theorem decides_or_blank (e : Environment) (names : List String) :
    (∃ looked value, e.Decides names looked value) ∨ ∀ n ∈ names, e.IsBlank n := by
  induction names with
  | nil => exact .inr (List.forall_mem_nil _)
  | cons name rest ih =>
    by_cases hblank : e.IsBlank name
    · rcases ih with ⟨looked, value, h⟩ | hrest
      · exact .inl ⟨_, _, .next hblank h⟩
      · exact .inr (List.forall_mem_cons.mpr ⟨hblank, hrest⟩)
    · simp only [IsBlank, not_forall, Bool.not_eq_true] at hblank
      obtain ⟨value, h, hvalue⟩ := hblank
      exact .inl ⟨_, _, .here h hvalue⟩

theorem findSome?_of_blank (h : ∀ n ∈ names, e.IsBlank n) : names.findSome? e.nonBlank? = none := by
  rw [List.findSome?_eq_none_iff]
  exact fun n hn => nonBlank?_eq_none (h n hn)

end Environment

namespace Toolbox

variable {b : Toolbox} {e e' : Environment} {name : String} {args : Value}

theorem token_of_decides {names looked : List String} {value : String}
    (h : e.Decides names looked value) : token e names = .ok (Text.trimmed value) := by
  rw [token, h.findSome?]

theorem token_of_blank {names : List String} (h : ∀ n ∈ names, e.IsBlank n) :
    token e names = .error (.noToken names) := by
  rw [token, Environment.findSome?_of_blank h]

/-- A call takes nothing but the token from the environment. -/
theorem prepare_of_token (h : token e' b.tokenVariables = token e b.tokenVariables) (name : String)
    (args : Value) : b.prepare e' name args = b.prepare e name args := by
  simp only [prepare_eq, request_eq, h]

theorem prepare_of_blank {op : Operation} {given : Members Value}
    (h : ∀ n ∈ b.tokenVariables, e.IsBlank n) (hop : b.registry.get? name = some op)
    (hgiven : (InputSchema.ofOperation op).validate args = .ok given) :
    b.prepare e name args = .error (.noToken b.tokenVariables) := by
  simp only [prepare_eq, hop, hgiven, request_eq, token_of_blank h]
  rfl

theorem authorization_of_prepare {looked : List String} {value : String} {r : Request}
    (h : e.Decides b.tokenVariables looked value) (hr : b.prepare e name args = .ok r) :
    r.authorization = (Request.basic? r.url).toList ++ ["Bearer " ++ Text.trimmed value] := by
  obtain ⟨op, given, -, -, hrequest⟩ := prepare_eq_ok_iff.mp hr
  obtain ⟨t, url, body, ht, -, -, rfl⟩ := request_eq_ok_iff.mp hrequest
  obtain rfl := Except.ok.inj ((token_of_decides h).symm.trans ht)
  rfl

/-- Unless all of its variables are blank, a toolbox has a token: what the first of them that is not blank holds,
without white space around it. Each request carries it, and the variables behind that one make no difference
to any call. If they are all blank, a call of a known tool with arguments that can be read names them in order and
hands nothing over, whatever is wrong with its address or its body. -/
theorem dispatch_by_token (b : Toolbox) (e : Environment) :
    ((∃ looked value, e.Decides b.tokenVariables looked value) ↔
      ¬ ∀ n ∈ b.tokenVariables, e.IsBlank n) ∧
    (∀ looked value, e.Decides b.tokenVariables looked value →
      (∀ name args respond names, (b.dispatched e name args respond).1 ≠ .error (.noToken names)) ∧
      (∀ name args respond, ∀ r ∈ (b.dispatched e name args respond).2,
        r.authorization = (Request.basic? r.url).toList ++ ["Bearer " ++ Text.trimmed value]) ∧
      ∀ e' : Environment, (∀ n ∈ looked, e'.get? n = e.get? n) → ∀ name args,
        b.prepare e' name args = b.prepare e name args ∧
        ∀ {m : Type → Type} [Monad m] (exchange : Request → m (Except ExchangeError Response)),
          b.dispatch e' exchange name args = b.dispatch e exchange name args ∧
            b.call e' exchange name args = b.call e exchange name args) ∧
    ((∀ n ∈ b.tokenVariables, e.IsBlank n) → ∀ name op args given,
      b.registry.get? name = some op → (InputSchema.ofOperation op).validate args = .ok given →
        ∀ respond, b.dispatched e name args respond = (.error (.noToken b.tokenVariables), [])) ∧
    (Failure.noToken b.tokenVariables).kind = .config ∧
    (Failure.noToken b.tokenVariables).report = "Configuration error: " ++
      ("No API token found. Set one of: " ++ ", ".intercalate b.tokenVariables) := by
  refine ⟨⟨?_, fun hnot => (e.decides_or_blank _).resolve_right hnot⟩, ?_, ?_, rfl, rfl⟩
  · rintro ⟨looked, value, h⟩ hblank
    have hfound := h.findSome?
    rw [Environment.findSome?_of_blank hblank] at hfound
    cases hfound
  · intro looked value h
    refine ⟨?_, ?_, ?_⟩
    · intro name args respond names hfailed
      have hrefuses := (refuses_of_dispatched hfailed (by simp [Failure.kind])).1
      cases hrefuses with
      | token hnone =>
        rw [h.findSome?] at hnone
        cases hnone
    · exact fun name args respond r hr => authorization_of_prepare h (prepare_of_mem_dispatched hr)
    · intro e' hsame name args
      have htoken : token e' b.tokenVariables = token e b.tokenVariables :=
        (token_of_decides (h.congr hsame)).trans (token_of_decides h).symm
      have hprepare := prepare_of_token htoken name args
      refine ⟨hprepare, fun exchange => ?_⟩
      have hdispatch : b.dispatch e' exchange name args = b.dispatch e exchange name args := by
        rw [dispatch, dispatch, hprepare]
      exact ⟨hdispatch, by rw [call, call, hdispatch]⟩
  · intro hblank name op args given hop hgiven respond
    exact dispatched_of_error (prepare_of_blank hblank hop hgiven)

/-- A variable that is listed twice and is blank beyond ASCII, then two that are not. Without the latter, a call with
no value for its path and a body that is none fails for want of a token. -/
theorem dispatch_by_token_user :
    let decl : OperationDecl := ⟨.put, none, none, [], some ⟨true, none⟩⟩
    let doc : PathDocument := ⟨"/users/\x7bid\x7d", [.declare "id" .path true none .string none], [decl]⟩
    let base : Url := ⟨"http", some ⟨"", "", .ipv4 2130706433, some 8080⟩, .segments [""], none, none⟩
    let b : Toolbox := ⟨Registry.build [doc] (.all true), base, ["KEY", "KEY", "TOKEN", "API_TOKEN"], none⟩
    let e : Environment := ⟨[("TOKEN", " secret\n"), ("KEY", "\u2003"), ("API_TOKEN", "old")]⟩
    let e' : Environment := ⟨[("KEY", "\u2003"), ("TOKEN", " secret\n"), ("HOME", "/")]⟩
    let blank : Environment := ⟨[("KEY", "\u2003"), ("API_TOKEN", "")]⟩
    let args : Value := .object [("id", .int 7), ("body", .string "name=Ada")]
    let wrong : Value := .object [("id", .string ""), ("body", .string "name")]
    let respond (_ : Request) : Except ExchangeError Response := .ok ⟨200, [], []⟩
    e.Decides b.tokenVariables ["KEY", "KEY", "TOKEN"] " secret\n" ∧
      (∀ n ∈ ["KEY", "KEY", "TOKEN"], e'.get? n = e.get? n) ∧
      (∃ r, (b.dispatched e "users_id" args respond).2 = [r] ∧
        (b.dispatched e' "users_id" args respond).2 = [r] ∧
        r.authorization.getLast? = some "Bearer secret") ∧
      (∀ n ∈ b.tokenVariables, blank.IsBlank n) ∧
      b.dispatched blank "users_id" wrong respond = (.error (.noToken b.tokenVariables), []) := by
  intro decl doc base b e e' blank args wrong respond
  have hdecides : e.Decides b.tokenVariables ["KEY", "KEY", "TOKEN"] " secret\n" :=
    .next (by decide) (.next (by decide) (.here (by decide) (by decide)))
  have hsame : ∀ n ∈ ["KEY", "KEY", "TOKEN"], e'.get? n = e.get? n := by decide
  have hblank : ∀ n ∈ b.tokenVariables, blank.IsBlank n := by decide
  obtain ⟨-, hdecided, -, -, -⟩ := dispatch_by_token b e
  obtain ⟨-, hcarried, hothers⟩ := hdecided _ _ hdecides
  obtain ⟨-, -, hfails, -, -⟩ := dispatch_by_token b blank
  obtain ⟨r, hr⟩ : ∃ r, (b.dispatched e "users_id" args respond).2 = [r] :=
    List.length_eq_one_iff.mp (by decide +kernel)
  have hdispatch := ((hothers e' hsame "users_id" args).2 (recording respond)).1
  have hauthorization := hcarried "users_id" args respond r (by rw [hr]; exact List.mem_cons_self)
  have htrimmed : Text.trimmed " secret\n" = "secret" := by decide
  have hget : b.registry.get? "users_id" = some (Registry.operation "users_id" doc decl) := by
    decide +kernel
  have hgiven : (InputSchema.ofOperation (Registry.operation "users_id" doc decl)).validate wrong =
      .ok [("id", .string ""), ("body", .string "name")] := by cbv
  refine ⟨hdecides, hsame, ⟨r, hr, ?_, ?_⟩, hblank, hfails hblank _ _ _ _ hget hgiven respond⟩
  · rw [dispatched, hdispatch]
    exact hr
  · rw [hauthorization, htrimmed]
    simp

end Toolbox
end ApiToolbox
