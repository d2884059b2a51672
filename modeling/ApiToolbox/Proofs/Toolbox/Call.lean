import ApiToolbox.Proofs.Body
import ApiToolbox.Proofs.RequestUrl.Origin
import ApiToolbox.Toolbox

/-! What a call hands over. A call that is refused hands over no request, and one with an outcome has
handed over one: the request of its operation, made of the arguments as they were read. -/

namespace ApiToolbox

open Json (Value)

theorem Method.name_eq (m : Method) : m.name = Text.asciiUpper m.key := by
  cases m <;> decide

/-- The request of an operation for arguments that have been read. It has a body, and says that it is
JSON, exactly when the operation declares one and the arguments give one. -/
structure Request.IsFor (r : Request) (b : Toolbox) (e : Environment) (op : Operation)
    (given : Members Value) : Prop where
  method : r.method = op.method ∧ r.method.name = Text.asciiUpper op.method.key
  url : RequestUrl.build b.baseUrl op given = .ok r.url
  authorization : ∃ t, Toolbox.token e b.tokenVariables = .ok t ∧ r.authorization = ["Bearer " ++ t]
  accept : r.accept = ["application/json"]
  withBody : ∀ spec ms, op.body = some spec →
    readBody (given.get? Field.bodyName) spec.required = .ok (some (.object ms)) →
    r.contentType = ["application/json"] ∧ r.body = some (.object ms) ∧
      r.bodyText = (Value.object ms).text
  withoutBody : (∀ spec ms, op.body = some spec →
      readBody (given.get? Field.bodyName) spec.required ≠ .ok (some (.object ms))) →
    r.contentType = [] ∧ r.body = none

namespace Toolbox

variable {b : Toolbox} {e : Environment} {name : String} {args : Value}

/-! ### The request -/

/-- The body of a request for an operation. -/
def bodyOf (op : Operation) (args : Members Value) : Except Failure (Option Value) :=
  match op.body with
  | some spec => (readBody (args.get? Field.bodyName) spec.required).mapError .body
  | none => .ok none

theorem request_eq (b : Toolbox) (e : Environment) (op : Operation) (given : Members Value) :
    b.request e op given = do
      let t ← token e b.tokenVariables
      let url ← (RequestUrl.build b.baseUrl op given).mapError .url
      let body ← bodyOf op given
      return ⟨op.method, url, t, body, b.timeout⟩ := by
  unfold request bodyOf
  cases op.body with
  | none => rfl
  | some spec => rfl

theorem request_eq_ok_iff {op : Operation} {given : Members Value} {r : Request} :
    b.request e op given = .ok r ↔
      ∃ t url body, token e b.tokenVariables = .ok t ∧ RequestUrl.build b.baseUrl op given = .ok url ∧
        bodyOf op given = .ok body ∧ r = ⟨op.method, url, t, body, b.timeout⟩ := by
  simp only [request_eq, bind_eq_ok_iff, mapError_eq_ok_iff]
  constructor
  · rintro ⟨t, ht, url, hurl, body, hbody, hr⟩
    exact ⟨t, url, body, ht, hurl, hbody, (Except.ok.inj hr).symm⟩
  · rintro ⟨t, url, body, ht, hurl, hbody, rfl⟩
    exact ⟨t, ht, url, hurl, body, hbody, rfl⟩

/-- Calls find the operation that the registry has under the name of the tool. -/
theorem callable?_eq (b : Toolbox) (name : String) :
    b.callable? name = (b.registry.get? name).map fun op => ⟨op, .ofOperation op⟩ := by
  have hoperations : b.callables.map (·.operation) = b.registry.operations := by
    simp [callables, Function.comp_def]
  rw [callable?, hoperations, ← b.registry.places_eq, Registry.get?, Option.map_bind]
  congr 1
  funext i
  simp [callables]

theorem prepare_eq (b : Toolbox) (e : Environment) (name : String) (args : Value) :
    b.prepare e name args =
      match b.registry.get? name with
      | none => .error (.unknownTool name)
      | some op =>
        match (InputSchema.ofOperation op).validate args with
        | .error cause => .error (.arguments cause)
        | .ok given => b.request e op given := by
  rw [prepare, callable?_eq]
  cases b.registry.get? name with
  | none => rfl
  | some op => rfl

theorem prepare_eq_ok_iff {r : Request} :
    b.prepare e name args = .ok r ↔ ∃ op given, b.registry.get? name = some op ∧
      (InputSchema.ofOperation op).validate args = .ok given ∧ b.request e op given = .ok r := by
  rw [prepare_eq]
  cases hop : b.registry.get? name with
  | none => simp
  | some op =>
    cases hgiven : (InputSchema.ofOperation op).validate args with
    | error cause => simp [hgiven]
    | ok given => simp [hgiven]

/-- The ways in which no request is ready. The first stage that fails says why: the tool, the arguments,
the token, the address, the body. -/
inductive Refuses (b : Toolbox) (e : Environment) (name : String) (args : Value) : Failure → Prop where
  | tool (h : b.registry.get? name = none) : Refuses b e name args (.unknownTool name)
  | arguments {op : Operation} {cause : ArgumentError} (hop : b.registry.get? name = some op)
      (h : (InputSchema.ofOperation op).validate args = .error cause) :
      Refuses b e name args (.arguments cause)
  | token (h : b.tokenVariables.findSome? e.nonBlank? = none) :
      Refuses b e name args (.noToken b.tokenVariables)
  | url {op : Operation} {given : Members Value} {cause : RequestUrlError}
      (hop : b.registry.get? name = some op)
      (hgiven : (InputSchema.ofOperation op).validate args = .ok given)
      (h : RequestUrl.build b.baseUrl op given = .error cause) : Refuses b e name args (.url cause)
  | body {op : Operation} {given : Members Value} {spec : BodySpec} {cause : BodyError}
      (hop : b.registry.get? name = some op)
      (hgiven : (InputSchema.ofOperation op).validate args = .ok given) (hspec : op.body = some spec)
      (h : readBody (given.get? Field.bodyName) spec.required = .error cause) :
      Refuses b e name args (.body cause)

theorem exists_of_bodyOf_eq_error {op : Operation} {given : Members Value} {f : Failure}
    (h : bodyOf op given = .error f) : ∃ spec cause, op.body = some spec ∧
      readBody (given.get? Field.bodyName) spec.required = .error cause ∧ f = .body cause := by
  unfold bodyOf at h
  split at h
  · next spec hspec =>
    cases hread : readBody (given.get? Field.bodyName) spec.required with
    | error cause =>
      rw [hread] at h
      exact ⟨spec, cause, hspec, hread, (Except.error.inj h).symm⟩
    | ok body =>
      rw [hread] at h
      cases h
  · cases h

theorem refuses_of_request {op : Operation} {given : Members Value} {f : Failure}
    (hop : b.registry.get? name = some op)
    (hgiven : (InputSchema.ofOperation op).validate args = .ok given)
    (h : b.request e op given = .error f) : b.Refuses e name args f := by
  rw [request_eq] at h
  unfold token at h
  cases htoken : b.tokenVariables.findSome? e.nonBlank? with
  | none =>
    rw [htoken] at h
    obtain rfl := Except.error.inj h
    exact .token htoken
  | some t =>
    rw [htoken] at h
    cases hurl : RequestUrl.build b.baseUrl op given with
    | error cause =>
      rw [hurl] at h
      obtain rfl := Except.error.inj h
      exact .url hop hgiven hurl
    | ok url =>
      rw [hurl] at h
      cases hbody : bodyOf op given with
      | error f' =>
        rw [hbody] at h
        obtain ⟨spec, cause, hspec, hread, rfl⟩ := exists_of_bodyOf_eq_error hbody
        obtain rfl := Except.error.inj h
        exact .body hop hgiven hspec hread
      | ok body =>
        rw [hbody] at h
        cases h

theorem refuses_of_prepare {f : Failure} (h : b.prepare e name args = .error f) :
    b.Refuses e name args f := by
  rw [prepare_eq] at h
  split at h
  · next hop =>
    obtain rfl := Except.error.inj h
    exact .tool hop
  · next op hop =>
    split at h
    · next cause hcause =>
      obtain rfl := Except.error.inj h
      exact .arguments hop hcause
    · next given hgiven => exact refuses_of_request hop hgiven h

/-- What can be wrong before a request is sent is for the configuration or the caller to mend. -/
theorem Refuses.kind {f : Failure} (h : b.Refuses e name args f) :
    f.kind = .config ∨ f.kind = .input := by
  cases h with
  | token _ => exact .inl rfl
  | tool _ => exact .inr rfl
  | arguments _ _ => exact .inr rfl
  | url _ _ _ => exact .inr rfl
  | body _ _ _ _ => exact .inr rfl

theorem exists_parse_of_build {s : Settings} {e₀ : Environment} {t : FileTree}
    (h : build s e₀ t = .ok b) : ∃ given, BaseUrl.parse given = .ok b.baseUrl := by
  simp only [build, bind_eq_ok_iff] at h
  obtain ⟨base, hbase, docs, -, hb⟩ := h
  obtain rfl := Except.ok.inj hb
  simp only [readBaseUrl, mapError_eq_ok_iff] at hbase
  exact ⟨_, hbase⟩

/-- An address that begins with that of a toolbox names nobody unless the latter does. -/
theorem basic?_of_build {s : Settings} {e₀ : Environment} {t : FileTree} (hbuild : build s e₀ t = .ok b)
    (hbare : ∀ a, b.baseUrl.authority = some a → a.IsBare) {op : Operation} {given : Members Value}
    {u : Url} (hu : RequestUrl.build b.baseUrl op given = .ok u) : Request.basic? u = none := by
  obtain ⟨base, hbase⟩ := exists_parse_of_build hbuild
  obtain ⟨hparse, hs⟩ := BaseUrl.cases_of_parse hbase
  obtain ⟨a, hweb, auth, hauth⟩ := Url.exists_isWeb_of_parse hparse hs
  obtain ⟨text, a', -, ha', rfl⟩ := (RequestUrl.build_eq_ok_iff hweb).mp hu
  have hbare' : a'.IsBare :=
    (hbare a hweb.authority).of_parse_text hs.isSpecial hauth ha'
  rw [Request.basic?, RequestUrl.authority_withPairs, Url.authority_web]
  simp [hbare'.1, hbare'.2]

theorem bodyOf_eq_some_iff {op : Operation} {given : Members Value} {body : Option Value}
    (h : bodyOf op given = .ok body) (v : Value) : body = some v ↔ ∃ spec ms, op.body = some spec ∧
      readBody (given.get? Field.bodyName) spec.required = .ok (some (.object ms)) ∧ v = .object ms := by
  unfold bodyOf at h
  cases hspec : op.body with
  | none =>
    simp only [hspec] at h
    obtain rfl := Except.ok.inj h
    simp
  | some spec =>
    simp only [hspec, mapError_eq_ok_iff] at h
    constructor
    · rintro rfl
      obtain ⟨ms, rfl⟩ := exists_object_of_readBody h
      exact ⟨spec, ms, rfl, h, rfl⟩
    · rintro ⟨spec', ms, hspec', hread, rfl⟩
      obtain rfl := Option.some.inj hspec'
      exact Except.ok.inj (h.symm.trans hread)

theorem isFor_of_request {s : Settings} {e₀ : Environment} {t : FileTree}
    (hbuild : build s e₀ t = .ok b) (hbare : ∀ a, b.baseUrl.authority = some a → a.IsBare)
    {op : Operation} {given : Members Value} {r : Request} (h : b.request e op given = .ok r) :
    r.IsFor b e op given := by
  obtain ⟨t, url, body, ht, hurl, hbody, rfl⟩ := request_eq_ok_iff.mp h
  have hsome := bodyOf_eq_some_iff hbody
  refine ⟨⟨rfl, Method.name_eq _⟩, hurl, ⟨t, ht, ?_⟩, rfl, ?_, ?_⟩
  · rw [Request.authorization, basic?_of_build hbuild hbare hurl]
    rfl
  · intro spec ms hspec hread
    obtain rfl := (hsome _).mpr ⟨spec, ms, hspec, hread, rfl⟩
    exact ⟨rfl, rfl, rfl⟩
  · intro hnot
    cases body with
    | none => exact ⟨rfl, rfl⟩
    | some v =>
      obtain ⟨spec, ms, hspec, hread, -⟩ := (hsome v).mp rfl
      exact absurd hread (hnot spec ms hspec)

/-! ### Keeping the requests -/

/-- An exchange that answers as it is told, and keeps the requests that are handed to it. -/
def recording (respond : Request → Except ExchangeError Response) (r : Request) :
    StateM (List Request) (Except ExchangeError Response) := do
  modify (· ++ [r])
  return respond r

variable (b e name args) (respond : Request → Except ExchangeError Response)

/-- What a dispatch comes to, with the requests that it hands over. -/
def dispatched : Except Failure Outcome × List Request :=
  (b.dispatch e (recording respond) name args).run []

/-- What a call comes to, with the requests that it hands over. -/
def called : ToolResult × List Request :=
  (b.call e (recording respond) name args).run []

variable {b e name args respond}

theorem dispatched_of_error {f : Failure} (h : b.prepare e name args = .error f) :
    b.dispatched e name args respond = (.error f, []) := by
  rw [dispatched, dispatch, h]
  rfl

/-- A request that is ready is handed over once, unless it cannot be written. -/
theorem dispatched_of_ok {r : Request} (h : b.prepare e name args = .ok r) :
    b.dispatched e name args respond =
      if r.isSendable then
        (match respond r with
          | .ok response => .ok ⟨r.method, r.url, response⟩
          | .error cause => .error (.exchange cause), [r])
      else (.error (.exchange .unsendable), []) := by
  rw [dispatched, dispatch, h]
  by_cases hsendable : r.isSendable
  · simp only [send, hsendable, if_true]
    cases hrespond : respond r with
    | ok response =>
      simp only [recording, hrespond]
      rfl
    | error cause =>
      simp only [recording, hrespond]
      rfl
  · simp only [send, hsendable]
    rfl

/-- The ways of a dispatch: no request is ready, or the one that is ready cannot be written, or it is handed
over and the exchange fails or answers. -/
theorem dispatched_cases (b : Toolbox) (e : Environment) (name : String) (args : Value)
    (respond : Request → Except ExchangeError Response) :
    (∃ f, b.prepare e name args = .error f ∧ b.dispatched e name args respond = (.error f, [])) ∨
      ∃ r, b.prepare e name args = .ok r ∧
        (b.dispatched e name args respond = (.error (.exchange .unsendable), []) ∨
          (∃ cause, respond r = .error cause ∧
            b.dispatched e name args respond = (.error (.exchange cause), [r])) ∨
          ∃ response, respond r = .ok response ∧
            b.dispatched e name args respond = (.ok ⟨r.method, r.url, response⟩, [r])) := by
  cases hprepare : b.prepare e name args with
  | error f => exact .inl ⟨f, rfl, dispatched_of_error hprepare⟩
  | ok r =>
    refine .inr ⟨r, rfl, ?_⟩
    rw [dispatched_of_ok hprepare]
    split
    · cases hrespond : respond r with
      | error cause => exact .inr (.inl ⟨cause, rfl, rfl⟩)
      | ok response => exact .inr (.inr ⟨response, rfl, rfl⟩)
    · exact .inl rfl

/-- What is handed over was ready. -/
theorem prepare_of_mem_dispatched {r : Request} (h : r ∈ (b.dispatched e name args respond).2) :
    b.prepare e name args = .ok r := by
  rcases dispatched_cases b e name args respond with
    ⟨f, -, hd⟩ | ⟨r', hready, hd | ⟨cause, -, hd⟩ | ⟨response, -, hd⟩⟩
  · simp [hd] at h
  · simp [hd] at h
  · obtain rfl : r = r' := by simpa [hd] using h
    exact hready
  · obtain rfl : r = r' := by simpa [hd] using h
    exact hready

theorem called_of_ne (h : name ≠ ToolName.reserved) : b.called e name args respond =
    (resultOf (b.dispatched e name args respond).1, (b.dispatched e name args respond).2) := by
  rw [called, call, if_neg h]
  rfl

/-- A dispatch that has an outcome had a request ready, handed it over and got a response. -/
theorem exists_of_dispatched_eq_ok {o : Outcome} (h : (b.dispatched e name args respond).1 = .ok o) :
    ∃ r, b.prepare e name args = .ok r ∧ (b.dispatched e name args respond).2 = [r] ∧
      respond r = .ok o.response ∧ o.url = r.url ∧ o.method = r.method := by
  rcases dispatched_cases b e name args respond with
    ⟨f, -, hd⟩ | ⟨r, hready, hd | ⟨cause, -, hd⟩ | ⟨response, hresponse, hd⟩⟩
  · simp [hd] at h
  · simp [hd] at h
  · simp [hd] at h
  · rw [hd] at h ⊢
    obtain rfl := Except.ok.inj h
    exact ⟨r, hready, rfl, hresponse, rfl, rfl⟩

theorem length_dispatched_le (b : Toolbox) (e : Environment) (name : String) (args : Value)
    (respond : Request → Except ExchangeError Response) :
    (b.dispatched e name args respond).2.length ≤ 1 := by
  rcases dispatched_cases b e name args respond with
    ⟨f, -, hd⟩ | ⟨r, -, hd | ⟨cause, -, hd⟩ | ⟨response, -, hd⟩⟩ <;> simp [hd]

/-- A dispatch that fails other than in the exchange has handed nothing over. -/
theorem refuses_of_dispatched {f : Failure} (h : (b.dispatched e name args respond).1 = .error f)
    (hkind : f.kind ≠ .request) :
    b.Refuses e name args f ∧ (b.dispatched e name args respond).2 = [] := by
  rcases dispatched_cases b e name args respond with
    ⟨f', hrefused, hd⟩ | ⟨r, -, hd | ⟨cause, -, hd⟩ | ⟨response, -, hd⟩⟩
  · rw [hd] at h ⊢
    obtain rfl := Except.error.inj h
    exact ⟨refuses_of_prepare hrefused, rfl⟩
  · rw [hd] at h
    obtain rfl := Except.error.inj h
    exact absurd rfl hkind
  · rw [hd] at h
    obtain rfl := Except.error.inj h
    exact absurd rfl hkind
  · simp [hd] at h

/-- A failure of the configuration or of the caller comes before anything is handed over. -/
theorem dispatched_eq_nil_of_kind {f : Failure} (h : (b.dispatched e name args respond).1 = .error f)
    (hkind : f.kind = .config ∨ f.kind = .input) : (b.dispatched e name args respond).2 = [] := by
  have hne : f.kind ≠ .request := by
    rcases hkind with hkind | hkind
    · simp [hkind]
    · simp [hkind]
  exact (refuses_of_dispatched h hne).2

/-! ### Results -/

theorem isError_resultOf_eq_false_iff {x : Except Failure Outcome} :
    (resultOf x).isError = false ↔
      ∃ o, x = .ok o ∧ 200 ≤ o.response.status ∧ o.response.status ≤ 299 := by
  cases x with
  | error f => cases f <;> simp [resultOf, ToolResult.ofFailure, ToolResult.isError]
  | ok o =>
    simp only [resultOf, ToolResult.isError, Response.isSuccess, Except.ok.injEq, exists_eq_left',
      Bool.not_eq_false', Bool.and_eq_true, decide_eq_true_eq]
    omega

theorem isSome_structured?_resultOf_iff {x : Except Failure Outcome} :
    (resultOf x).structured?.isSome ↔ ∃ o, x = .ok o := by
  cases x with
  | error f => cases f <;> simp [resultOf, ToolResult.ofFailure, ToolResult.structured?]
  | ok o => simp [resultOf, ToolResult.structured?]

/-- A toolbox whose base address names nobody hands over at most one request a call: none when the
configuration or the caller is at fault, and that of the operation when there is an outcome. -/
theorem dispatched_isFor {s : Settings} {e₀ : Environment} {t : FileTree}
    (hbuild : build s e₀ t = .ok b) (hbare : ∀ a, b.baseUrl.authority = some a → a.IsBare)
    (e : Environment) (name : String) (args : Value)
    (respond : Request → Except ExchangeError Response) :
    (b.dispatched e name args respond).2.length ≤ 1 ∧
      (∀ f, (b.dispatched e name args respond).1 = .error f → f.kind = .config ∨ f.kind = .input →
        (b.dispatched e name args respond).2 = []) ∧
      (∀ o, (b.dispatched e name args respond).1 = .ok o → ∃ op given r,
        b.registry.get? name = some op ∧
          (InputSchema.ofOperation op).validate args = .ok given ∧
          (b.dispatched e name args respond).2 = [r] ∧ r.IsFor b e op given ∧
          respond r = .ok o.response) ∧
      (name ≠ ToolName.reserved →
        (b.called e name args respond).2 = (b.dispatched e name args respond).2 ∧
          ((b.called e name args respond).1.isError = false ↔
            ∃ o, (b.dispatched e name args respond).1 = .ok o ∧
              200 ≤ o.response.status ∧ o.response.status ≤ 299) ∧
          ((b.called e name args respond).1.structured?.isSome ↔
            ∃ o, (b.dispatched e name args respond).1 = .ok o)) := by
  refine ⟨length_dispatched_le b e name args respond, fun f => dispatched_eq_nil_of_kind, ?_, ?_⟩
  · intro o ho
    obtain ⟨r, hr, hsent, hresponse, -, -⟩ := exists_of_dispatched_eq_ok ho
    obtain ⟨op, given, hop, hgiven, hrequest⟩ := prepare_eq_ok_iff.mp hr
    exact ⟨op, given, r, hop, hgiven, hsent, isFor_of_request hbuild hbare hrequest, hresponse⟩
  · intro hname
    rw [called_of_ne hname]
    exact ⟨rfl, isError_resultOf_eq_false_iff, isSome_structured?_resultOf_iff⟩

/-- An item is made with one request, which carries the body that was given as a text. -/
theorem dispatched_isFor_items :
    let text := "/items:\n  post:\n    requestBody:\n      required: true\n"
    let t : FileTree := ⟨[(["index.yaml"], .file (Text.Utf8.encode text.toList))], []⟩
    let s : Settings := { index := "/index.yaml" }
    let decl : OperationDecl := ⟨.post, none, none, [], some ⟨true, none⟩⟩
    let doc : PathDocument := ⟨"/items", [], [decl]⟩
    let base : Url := ⟨"http", some ⟨"", "", .ipv4 2130706433, some 8080⟩, .segments [""], none, none⟩
    let b : Toolbox := ⟨Registry.build [doc] (.all true), base, s.tokenVariables, none⟩
    let e : Environment := ⟨[("API_TOKEN", "secret")]⟩
    let args : Value := .object [("body", .string "name=Ada"), ("more", .null)]
    let respond (_ : Request) : Except ExchangeError Response := .ok ⟨201, [], []⟩
    build s ⟨[]⟩ t = .ok b ∧ (∀ a, b.baseUrl.authority = some a → a.IsBare) ∧
      ∃ r, (b.dispatched e "items" args respond).2 = [r] ∧
        r.IsFor b e (Registry.operation "items" doc decl) [("body", .string "name=Ada")] ∧
        r.authorization = ["Bearer secret"] ∧ (b.called e "items" args respond).1.isError = false := by
  intro text t s decl doc base b e args respond
  have hbase : readBaseUrl s ⟨[]⟩ = .ok base := by decide +kernel
  have hindex : readIndex s t = .ok [doc] := by decide +kernel
  have hbuild : build s ⟨[]⟩ t = .ok b := by
    simp only [build, hbase, hindex]
    rfl
  have hbare : ∀ a, b.baseUrl.authority = some a → a.IsBare := by
    intro a ha
    obtain rfl := Option.some.inj ha
    exact ⟨rfl, rfl⟩
  have hget : b.registry.get? "items" = some (Registry.operation "items" doc decl) := by
    decide +kernel
  obtain ⟨-, -, hanswered, hcalled⟩ := dispatched_isFor hbuild hbare e "items" args respond
  obtain ⟨o, ho⟩ : ∃ o, (b.dispatched e "items" args respond).1 = .ok o := by
    have hok : (b.dispatched e "items" args respond).1.toBool = true := by decide +kernel
    cases hresult : (b.dispatched e "items" args respond).1 with
    | error f => simp [hresult, Except.toBool] at hok
    | ok o => exact ⟨o, rfl⟩
  obtain ⟨op, given, r, hop, hgiven, hsent, hfor, hresponse⟩ := hanswered o ho
  obtain rfl := Option.some.inj (hget.symm.trans hop)
  have hread : (InputSchema.ofOperation (Registry.operation "items" doc decl)).validate args =
      .ok [("body", .string "name=Ada")] := by cbv
  obtain rfl := Except.ok.inj (hread.symm.trans hgiven)
  obtain ⟨token', htoken, hauthorization⟩ := hfor.authorization
  have hsecret : token e b.tokenVariables = .ok "secret" := by decide +kernel
  obtain rfl := Except.ok.inj (hsecret.symm.trans htoken)
  refine ⟨hbuild, hbare, r, hsent, hfor, hauthorization, ?_⟩
  obtain ⟨-, hisError, -⟩ := hcalled (by decide)
  refine hisError.mpr ⟨o, ho, ?_⟩
  rw [← Except.ok.inj hresponse]
  decide

end Toolbox
end ApiToolbox
