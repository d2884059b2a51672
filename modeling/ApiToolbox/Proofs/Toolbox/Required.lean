import ApiToolbox.Proofs.InputSchema
import ApiToolbox.Proofs.Json.Equality
import ApiToolbox.Proofs.Registry.Content
import ApiToolbox.Proofs.Toolbox.Call

/-! What tools ask for, and what calls of them cannot do without. Whatever a tool asks for is needed,
wherever among query, path and body it goes. The converse has an exception: a path parameter is needed
but not asked for where an optional definition of its name comes later. -/

namespace ApiToolbox

open Json (Value)
open InputSchema (Asks argument? field?)

namespace Operation

variable {op : Operation} {n : String}

/-- A path parameter of the name is hidden by an optional definition that comes later: that of the body,
or else the last query parameter of the name. -/
def Hides (op : Operation) (n : String) : Prop :=
  (∃ spec, op.body = some spec ∧ n = Field.bodyName ∧ spec.required = false) ∨
    (op.body.isSome → n ≠ Field.bodyName) ∧
      ∃ q, op.queryParams.reverse.find? (·.name = n) = some q ∧ q.required = false

theorem hides_iff_of_ne (hbody : op.body.isSome → n ≠ Field.bodyName) :
    op.Hides n ↔ ∃ q, op.queryParams.reverse.find? (·.name = n) = some q ∧ q.required = false := by
  constructor
  · rintro (⟨spec, hspec, hname, -⟩ | ⟨-, h⟩)
    · exact absurd hname (hbody (by simp [hspec]))
    · exact h
  · intro h
    exact .inr ⟨hbody, h⟩

theorem field?_of_ne (hbody : op.body.isSome → n ≠ Field.bodyName) :
    (InputSchema.ofOperation op).field? n =
      ((op.queryParams.reverse.find? (·.name = n)).map .ofParameter).or
        ((op.pathParams.reverse.find? (·.name = n)).map .ofParameter) := by
  have hfree : op.body = none ∨ n ≠ Field.bodyName :=
    (Decidable.imp_iff_not_or.mp hbody).imp_left Option.not_isSome_iff_eq_none.mp
  rw [InputSchema.field?_eq_parameter hfree, parameters, List.reverse_append, List.find?_append,
    Option.map_or]

/-- A field holds the body, a query parameter, or a path parameter. -/
theorem cases_field? (hop : op.WellPlaced) {f : Field}
    (h : (InputSchema.ofOperation op).field? n = some f) :
    (∃ spec, op.body = some spec ∧ n = Field.bodyName ∧ f.required = spec.required) ∨
      f.source = .parameter .query ∨ ∃ p ∈ op.pathParams, p.name = n := by
  by_cases hbody : op.body.isSome → n ≠ Field.bodyName
  · rw [field?_of_ne hbody] at h
    rcases Option.or_eq_some_iff.mp h with hquery | ⟨-, hpath⟩
    · obtain ⟨q, hq, rfl⟩ := Option.map_eq_some_iff.mp hquery
      have hmem : q ∈ op.queryParams := by simpa using List.mem_of_find?_eq_some hq
      refine .inr (.inl ?_)
      rw [Field.ofParameter, hop.query q hmem]
    · obtain ⟨p, hp, rfl⟩ := Option.map_eq_some_iff.mp hpath
      have hmem : p ∈ op.pathParams := by simpa using List.mem_of_find?_eq_some hp
      exact .inr (.inr ⟨p, hmem, by simpa using List.find?_some hp⟩)
  · obtain ⟨hsome, rfl⟩ : op.body.isSome ∧ n = Field.bodyName := by simpa using hbody
    obtain ⟨spec, hspec⟩ := Option.isSome_iff_exists.mp hsome
    rw [InputSchema.field?_bodyName hspec] at h
    obtain rfl := Option.some.inj h
    exact .inl ⟨spec, hspec, rfl, rfl⟩

theorem asks_iff {op : Operation} {n : String} : Asks op.asTool.inputSchema n ↔
    ∃ f, (InputSchema.ofOperation op).field? n = some f ∧ f.required :=
  InputSchema.asks_jsonSchema_iff.trans InputSchema.mem_required_iff

theorem asks_bodyName {spec : BodySpec} (hspec : op.body = some spec) :
    Asks op.asTool.inputSchema Field.bodyName ↔ spec.required = true := by
  rw [asks_iff, InputSchema.field?_bodyName hspec]
  simp [Field.ofBody]

/-- A path parameter is asked for unless it is hidden. -/
theorem asks_iff_not_hides (hop : op.WellPlaced) {p : Parameter} (hp : p ∈ op.pathParams) :
    Asks op.asTool.inputSchema p.name ↔ ¬ op.Hides p.name := by
  by_cases hbody : op.body.isSome → p.name ≠ Field.bodyName
  · rw [asks_iff, field?_of_ne hbody, hides_iff_of_ne hbody]
    cases hlast : op.queryParams.reverse.find? (·.name = p.name) with
    | some q =>
      have hmem : q ∈ op.queryParams := by simpa using List.mem_of_find?_eq_some hlast
      have hrequired : (Field.ofParameter q).required = q.required := by
        simp [Field.ofParameter, hop.query q hmem]
      simp [hrequired]
    | none =>
      obtain ⟨p', hlast'⟩ : ∃ p', op.pathParams.reverse.find? (·.name = p.name) = some p' :=
        Option.isSome_iff_exists.mp (List.find?_isSome.mpr ⟨p, by simpa using hp, by simp⟩)
      have hmem : p' ∈ op.pathParams := by simpa using List.mem_of_find?_eq_some hlast'
      have hrequired : (Field.ofParameter p').required = true := by
        simp [Field.ofParameter, hop.path p' hmem]
      simp [hlast', hrequired]
  · obtain ⟨hsome, hname⟩ : op.body.isSome ∧ p.name = Field.bodyName := by simpa using hbody
    obtain ⟨spec, hspec⟩ := Option.isSome_iff_exists.mp hsome
    rw [hname, asks_bodyName hspec]
    simp [Hides, hspec]

end Operation

namespace Toolbox

variable {b : Toolbox} {e : Environment} {args : Value} {docs : List PathDocument} {d : Discovery}
  {op : Operation}

theorem get?_of_mem (hb : b.registry = Registry.build docs d) (hop : op ∈ b.registry.operations) :
    b.registry.get? op.tool = some op := by
  rw [hb] at hop ⊢
  exact (Registry.get?_build_eq_some_iff docs d op.tool op).mpr ⟨hop, rfl⟩

/-- No request is ready for arguments that lack what the tool asks for. -/
theorem prepare_ne_ok_of_asks (hb : b.registry = Registry.build docs d)
    (hop : op ∈ b.registry.operations) {n : String} (hasks : Asks op.asTool.inputSchema n)
    (hlacks : argument? args n = none) (r : Request) : b.prepare e op.tool args ≠ .ok r := by
  intro hr
  obtain ⟨op', given, hget, hgiven, hrequest⟩ := prepare_eq_ok_iff.mp hr
  obtain rfl := Option.some.inj ((get?_of_mem hb hop).symm.trans hget)
  obtain ⟨t, url, body, -, hurl, hbody, -⟩ := request_eq_ok_iff.mp hrequest
  obtain ⟨f, hf, hrequired⟩ := Operation.asks_iff.mp hasks
  have hnone : given.get? n = none := by
    rw [InputSchema.get?_validate hgiven, hf, hlacks]
    rfl
  have hplaced : op.WellPlaced := Registry.wellPlaced_of_mem_build (hb ▸ hop)
  -- The stage that refuses is the one that reads the field.
  rcases Operation.cases_field? hplaced hf with ⟨spec, hspec, rfl, hsame⟩ | hquery | ⟨p, hp, rfl⟩
  · have hmissing : readBody (given.get? Field.bodyName) spec.required = .error .missing := by
      rw [readBody_eq_missing_iff, hnone]
      exact ⟨rfl, hsame.symm.trans hrequired⟩
    simp [bodyOf, hspec, hmissing, Except.mapError] at hbody
  · obtain ⟨v, w, hv, -⟩ := InputSchema.exists_convert?_of_validate hgiven hf hrequired hquery
    simp [hlacks] at hv
  · obtain ⟨text, htext, -⟩ := bind_eq_ok_iff.mp hurl
    obtain ⟨v, hv, -⟩ := (RequestUrl.path_isOk_iff op given).mp ⟨text, htext⟩ p hp
    simp [hnone] at hv

/-- What a tool asks for, its calls cannot do without: a call that lacks it is refused, and hands nothing
over. -/
theorem dispatched_of_asks (hb : b.registry = Registry.build docs d)
    (hop : op ∈ b.registry.operations) {n : String} (hasks : Asks op.asTool.inputSchema n)
    (hlacks : argument? args n = none) (e : Environment)
    (respond : Request → Except ExchangeError Response) :
    ∃ f : Failure, (f.kind = .config ∨ f.kind = .input) ∧
      b.dispatched e op.tool args respond = (.error f, []) := by
  cases hprepare : b.prepare e op.tool args with
  | error f => exact ⟨f, (refuses_of_prepare hprepare).kind, dispatched_of_error hprepare⟩
  | ok r => exact absurd hprepare (prepare_ne_ok_of_asks hb hop hasks hlacks r)

/-- A toolbox for one document, and where its token is found. -/
def exampleToolbox (doc : PathDocument) : Toolbox where
  registry := Registry.build [doc] (.all true)
  baseUrl := ⟨"http", some ⟨"", "", .ipv4 2130706433, some 8080⟩, .segments [""], none, none⟩
  tokenVariables := ["API_TOKEN"]
  timeout := none

def exampleEnvironment : Environment := ⟨[("API_TOKEN", "secret")]⟩

/-- An item whose path and query have a parameter of one name, and a query parameter with the name of the
body. -/
theorem dispatched_of_asks_items :
    let shared : List Parameter := [.declare "id" .path false none .string none,
      .declare "id" .query true none .integer none, .declare "body" .query false none .string none]
    let doc : PathDocument := ⟨"/items/\x7bid\x7d", shared, [⟨.put, none, none, [], some ⟨true, none⟩⟩]⟩
    let op := Registry.operation "items_id" doc ⟨.put, none, none, [], some ⟨true, none⟩⟩
    let b := exampleToolbox doc
    let args : Value := .object [("id", .string "7"), ("body", .null)]
    op ∈ b.registry.operations ∧ Asks op.asTool.inputSchema "body" ∧ argument? args "body" = none ∧
      ∃ f : Failure, (f.kind = .config ∨ f.kind = .input) ∧
        b.dispatched exampleEnvironment "items_id" args (fun _ => .ok ⟨200, [], []⟩) =
          (.error f, []) := by
  intro shared doc op b args
  have hop : op ∈ b.registry.operations := by decide +kernel
  have hasks : Asks op.asTool.inputSchema "body" :=
    InputSchema.asks_jsonSchema_iff.mpr (by decide +kernel)
  exact ⟨hop, hasks, rfl, dispatched_of_asks rfl hop hasks rfl _ _⟩

/-- A tool asks for its body when that is required, and for each path parameter that is not hidden. So
with all that is asked for, a call never misses its body, and of its path parameters misses hidden ones
only. -/
theorem asks_unless_hides (hb : b.registry = Registry.build docs d)
    (hop : op ∈ b.registry.operations) :
    (∀ p ∈ op.pathParams, (Asks op.asTool.inputSchema p.name ↔ ¬ op.Hides p.name)) ∧
      (∀ spec, op.body = some spec →
        (Asks op.asTool.inputSchema Field.bodyName ↔ spec.required = true)) ∧
      ∀ args, (∀ n, Asks op.asTool.inputSchema n → ∃ v, argument? args n = some v) →
        ∀ e respond, (b.dispatched e op.tool args respond).1 ≠ .error (.body .missing) ∧
          ∀ n, (b.dispatched e op.tool args respond).1 = .error (.url (.missingPath n)) →
            op.Hides n ∨ ∃ v, argument? args n = some v := by
  have hplaced : op.WellPlaced := Registry.wellPlaced_of_mem_build (hb ▸ hop)
  refine ⟨fun p hp => Operation.asks_iff_not_hides hplaced hp, fun spec => Operation.asks_bodyName, ?_⟩
  intro args hgives e respond
  constructor
  · intro h
    cases (refuses_of_dispatched h (by decide)).1 with
    | body hget hgiven hspec hread =>
      obtain rfl := Option.some.inj ((get?_of_mem hb hop).symm.trans hget)
      obtain ⟨hmissing, hrequired⟩ := readBody_eq_missing_iff.mp hread
      obtain ⟨v, hv⟩ := hgives _ ((Operation.asks_bodyName hspec).mpr hrequired)
      have hgot := InputSchema.get?_validate hgiven Field.bodyName
      rw [InputSchema.field?_bodyName hspec, hv] at hgot
      obtain ⟨-, hnull⟩ := Option.filter_eq_some_iff.mp hv
      simp [hgot, Field.ofBody, Field.convert?, Option.filter, hnull] at hmissing
  · intro n h
    cases (refuses_of_dispatched h (by simp [Failure.kind])).1 with
    | url hget hgiven hurl =>
      obtain rfl := Option.some.inj ((get?_of_mem hb hop).symm.trans hget)
      obtain ⟨p, hp, rfl, -⟩ := RequestUrl.exists_of_build_eq_missingPath hurl
      by_cases hhides : op.Hides p.name
      · exact .inl hhides
      · exact .inr (hgives _ ((Operation.asks_iff_not_hides hplaced hp).mpr hhides))

/-- A path with two parameters, of which an optional query parameter hides the second, and a body that is
required. -/
theorem asks_unless_hides_posts :
    let shared : List Parameter := [.declare "id" .path false none .string none,
      .declare "post" .query false none .integer none]
    let decl : OperationDecl := ⟨.put, none, none, [], some ⟨true, none⟩⟩
    let doc : PathDocument := ⟨"/users/\x7bid\x7d/posts/\x7bpost\x7d", shared, [decl]⟩
    let op := Registry.operation "users_id_posts_post" doc decl
    let b := exampleToolbox doc
    let args : Value := .object [("id", .string "7"), ("body", .object [])]
    op ∈ b.registry.operations ∧ op.pathParams.map (·.name) = ["id", "post"] ∧
      Asks op.asTool.inputSchema "id" ∧ ¬ Asks op.asTool.inputSchema "post" ∧
      Asks op.asTool.inputSchema "body" ∧
      (∀ n, Asks op.asTool.inputSchema n → ∃ v, argument? args n = some v) ∧
      (b.dispatched exampleEnvironment "users_id_posts_post" args
        (fun _ => .ok ⟨200, [], []⟩)).1 ≠ .error (.body .missing) := by
  intro shared decl doc op b args
  have hop : op ∈ b.registry.operations := by decide +kernel
  have hnames : op.pathParams.map (·.name) = ["id", "post"] := by decide +kernel
  have hrequired : (InputSchema.ofOperation op).required = ["id", "body"] := by decide +kernel
  have hasks (n : String) : Asks op.asTool.inputSchema n ↔ n = "id" ∨ n = "body" := by
    rw [Operation.asTool, InputSchema.asks_jsonSchema_iff, hrequired]
    simp
  have hgives : ∀ n, Asks op.asTool.inputSchema n → ∃ v, argument? args n = some v := by
    intro n hn
    rcases (hasks n).mp hn with rfl | rfl
    · exact ⟨_, rfl⟩
    · exact ⟨_, rfl⟩
  obtain ⟨hpath, hbody, hcall⟩ := asks_unless_hides (b := b) rfl hop
  refine ⟨hop, hnames, (hasks _).mpr (.inl rfl), ?_, (hbody _ rfl).mpr rfl, hgives,
    (hcall args hgives _ _).1⟩
  rw [hasks]
  decide

/-- A path parameter that an optional query parameter hides: the tool asks for nothing, and a call with
nothing is told that the path parameter is missing. -/
theorem not_asks_users :
    let shared : List Parameter := [.declare "id" .path false none .string none,
      .declare "id" .query false none .string none]
    let decl : OperationDecl := ⟨.get, some "Get user", none, [], none⟩
    let doc : PathDocument := ⟨"/users/\x7bid\x7d", shared, [decl]⟩
    let op := Registry.operation "users_id" doc decl
    let b := exampleToolbox doc
    op ∈ b.registry.operations ∧ "id" ∈ op.pathParams.map (·.name) ∧
      (∀ n, ¬ Asks op.asTool.inputSchema n) ∧
      b.prepare exampleEnvironment "users_id" (.object []) = .error (.url (.missingPath "id")) := by
  intro shared decl doc op b
  have hrequired : (InputSchema.ofOperation op).required = [] := by decide +kernel
  have hget : b.registry.get? "users_id" = some op := by decide +kernel
  have hgiven : (InputSchema.ofOperation op).validate (.object []) = .ok [] := by decide +kernel
  have htoken : token exampleEnvironment b.tokenVariables = .ok "secret" := by decide +kernel
  have hurl : RequestUrl.build b.baseUrl op [] = .error (.missingPath "id") := by decide +kernel
  have hprepare : b.prepare exampleEnvironment "users_id" (.object []) =
      .error (.url (.missingPath "id")) := by
    simp only [prepare_eq, hget, hgiven, request_eq, htoken, hurl]
    rfl
  refine ⟨by decide +kernel, by decide +kernel, ?_, hprepare⟩
  intro n
  rw [Operation.asTool, InputSchema.asks_jsonSchema_iff, hrequired]
  simp

end Toolbox
end ApiToolbox
