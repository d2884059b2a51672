import ApiToolbox.Proofs.RequestUrl.Query
import ApiToolbox.Proofs.Toolbox.Required

/-! The query of the requests that are handed over. A required query parameter is in it, unless it is a list
and the list that is given for it is empty: a list stands in the query item by item. -/

namespace ApiToolbox

open Json (Value)
open InputSchema (argument?)

/-! ### Values in a query -/

namespace RequestUrl

theorem pairs_of_scalarText? {v : Value} {text : String} (h : v.scalarText? = some text)
    (key : String) : pairs key v = [(key, v.addressText)] := by
  cases v with
  | null => cases h
  | array vs => cases h
  | _ => rfl

theorem fst_of_mem_pairs {key : String} {v : Value} {pair : String × String}
    (h : pair ∈ pairs key v) : pair.1 = key := by
  cases v with
  | null => cases h
  | array vs =>
    obtain ⟨item, -, rfl⟩ := List.mem_map.mp h
    rfl
  | _ =>
    obtain rfl := List.mem_singleton.mp h
    rfl

/-- A name is among the keys of a query when the value under it gives a pair. -/
theorem mem_keys_queryPairs {op : Operation} {given : Members Value} {q : Parameter}
    (hq : q ∈ op.queryParams) {v : Value} (hv : given.get? q.name = some v) (hne : pairs q.name v ≠ []) :
    q.name ∈ (queryPairs op given).map (·.1) := by
  obtain ⟨pair, hpair⟩ := List.exists_mem_of_ne_nil _ hne
  refine List.mem_map.mpr ⟨pair, List.mem_flatMap.mpr ⟨q, hq, ?_⟩, fst_of_mem_pairs hpair⟩
  simpa [hv] using hpair

end RequestUrl

namespace Field

variable {f : Field} {v w : Value}

/-- Of what is converted for a field, only an empty list gives no pair. -/
theorem eq_nil_of_convert? (hbody : f.kind ≠ .body) (h : f.convert? v = some w) {key : String}
    (hnil : RequestUrl.pairs key w = []) : f.kind = .stringArray ∧ v = .array [] := by
  by_cases hlist : f.kind = .stringArray
  · refine ⟨hlist, ?_⟩
    rw [convert?, hlist] at h
    cases v with
    | array vs =>
      obtain ⟨ws, hws, rfl⟩ := Option.map_eq_some_iff.mp h
      cases mapM_eq_some_iff.mp hws with
      | nil => rfl
      | cons ha _ =>
        obtain ⟨s, -, rfl⟩ := Option.map_eq_some_iff.mp ha
        simp [RequestUrl.pairs, Value.isNull] at hnil
    | _ => cases h
  · obtain ⟨text, htext⟩ := exists_scalarText?_of_convert? hbody hlist h
    rw [RequestUrl.pairs_of_scalarText? htext] at hnil
    cases hnil

theorem kind_ofParameter_ne_body (q : Parameter) : (ofParameter q).kind ≠ .body := by
  rw [ofParameter]
  cases q.type <;> simp [FieldKind.ofType]

theorem type_of_kind_ofParameter {q : Parameter} (h : (ofParameter q).kind = .stringArray) :
    q.type = .array := by
  rw [ofParameter] at h
  cases htype : q.type with
  | array => rfl
  | _ => simp [htype, FieldKind.ofType] at h

end Field

/-! ### Query parameters of an operation -/

namespace Operation

variable {op : Operation} {q : Parameter}

/-- Where all names are distinct, the field of a query parameter is its own. -/
theorem field?_queryParam (hdistinct : (op.parameters.map (·.name)).Nodup)
    (hbody : Field.bodyName ∉ op.parameters.map (·.name)) (hq : q ∈ op.queryParams) :
    (InputSchema.ofOperation op).field? q.name = some (.ofParameter q) := by
  have hne : q.name ≠ Field.bodyName := by
    intro heq
    exact hbody (heq ▸ List.mem_map_of_mem (List.mem_append_right _ hq))
  have hnodup : (op.queryParams.reverse.map (·.name)).Nodup := by
    rw [parameters, List.map_append, List.nodup_append] at hdistinct
    rw [List.map_reverse, List.nodup_reverse]
    exact hdistinct.2.1
  rw [field?_of_ne fun _ => hne, find?_key_of_mem hnodup (List.mem_reverse.mpr hq)]
  rfl

/-- Arguments that are accepted have a pair for each required query parameter, or an empty list for one that
is a list. -/
theorem mem_keys_of_validate (hplaced : op.WellPlaced)
    (hdistinct : (op.parameters.map (·.name)).Nodup)
    (hbody : Field.bodyName ∉ op.parameters.map (·.name)) {args : Value} {given : Members Value}
    (hgiven : (InputSchema.ofOperation op).validate args = .ok given) (hq : q ∈ op.queryParams)
    (hrequired : q.required = true) :
    q.name ∈ (RequestUrl.queryPairs op given).map (·.1) ∨
      q.type = .array ∧ argument? args q.name = some (.array []) := by
  have hfield := field?_queryParam hdistinct hbody hq
  have hreq : (Field.ofParameter q).required = true := by
    rw [Field.ofParameter, hrequired, Bool.true_or]
  have hsource : (Field.ofParameter q).source = .parameter .query := by
    rw [Field.ofParameter, hplaced.query q hq]
  obtain ⟨v, w, hv, hw⟩ := InputSchema.exists_convert?_of_validate hgiven hfield hreq hsource
  have hget : given.get? q.name = some w := by
    rw [InputSchema.get?_validate hgiven, hfield, hv]
    exact hw
  by_cases hnil : RequestUrl.pairs q.name w = []
  · obtain ⟨hkind, rfl⟩ := Field.eq_nil_of_convert? (Field.kind_ofParameter_ne_body q) hw hnil
    exact .inr ⟨Field.type_of_kind_ofParameter hkind, hv⟩
  · exact .inl (RequestUrl.mem_keys_queryPairs hq hget hnil)

end Operation

/-! ### Requests -/

namespace Toolbox

variable {b : Toolbox} {e : Environment} {docs : List PathDocument} {d : Discovery} {op : Operation}

/-- A request that is handed over has a pair for each required query parameter of its operation, unless the
parameter is a list and an empty one is given for it. -/
theorem required_mem_query (hb : b.registry = Registry.build docs d) (hop : op ∈ b.registry.operations)
    (hdistinct : (op.parameters.map (·.name)).Nodup)
    (hbody : Field.bodyName ∉ op.parameters.map (·.name)) {args : Value}
    {respond : Request → Except ExchangeError Response} {r : Request}
    (hr : r ∈ (b.dispatched e op.tool args respond).2) {q : Parameter} (hq : q ∈ op.queryParams)
    (hrequired : q.required = true) :
    q.name ∈ (Url.Form.decode (r.url.query.getD "")).map (·.1) ∨
      q.type = .array ∧ argument? args q.name = some (.array []) := by
  obtain ⟨op', given, hget, hgiven, hrequest⟩ := prepare_eq_ok_iff.mp (prepare_of_mem_dispatched hr)
  obtain rfl := Option.some.inj ((get?_of_mem hb hop).symm.trans hget)
  obtain ⟨t, url, body, -, hurl, -, rfl⟩ := request_eq_ok_iff.mp hrequest
  have hplaced : op.WellPlaced := Registry.wellPlaced_of_mem_build (hb ▸ hop)
  refine (Operation.mem_keys_of_validate hplaced hdistinct hbody hgiven hq hrequired).imp_left ?_
  intro hmem
  obtain ⟨text, v, -, -, rfl⟩ := RequestUrl.exists_parse_of_build hurl
  have hne : RequestUrl.queryPairs op given ≠ [] := by
    intro hnil
    simp [hnil] at hmem
  rwa [RequestUrl.query_withPairs, if_neg hne, Option.getD_some, Url.Form.decode_encode]

/-- Members of a team that are to be removed. -/
def teamMembers : PathDocument :=
  ⟨"/teams/\x7bteam\x7d/members", [.declare "team" .path true none .string none],
    [⟨.delete, none, none, [.declare "members" .query true none .array none], none⟩]⟩

def removeMembers : Operation :=
  Registry.operation "teams_team_members" teamMembers
    ⟨.delete, none, none, [.declare "members" .query true none .array none], none⟩

theorem removeMembers_mem : removeMembers ∈ (exampleToolbox teamMembers).registry.operations := by
  decide +kernel

theorem required_mem_query_members :
    let args : Value := .object [("team", .string "core"), ("members", .array [.int 7])]
    removeMembers ∈ (exampleToolbox teamMembers).registry.operations ∧
      (removeMembers.parameters.map (·.name)).Nodup ∧
      Field.bodyName ∉ removeMembers.parameters.map (·.name) ∧
      ∃ r, ((exampleToolbox teamMembers).dispatched exampleEnvironment removeMembers.tool args
          fun _ => .ok ⟨204, [], []⟩).2 = [r] ∧
        "members" ∈ (Url.Form.decode (r.url.query.getD "")).map (·.1) := by
  intro args
  have hdistinct : (removeMembers.parameters.map (·.name)).Nodup := by decide +kernel
  have hbody : Field.bodyName ∉ removeMembers.parameters.map (·.name) := by decide +kernel
  have hlength : ((exampleToolbox teamMembers).dispatched exampleEnvironment removeMembers.tool args
      fun _ => .ok ⟨204, [], []⟩).2.length = 1 := by
    decide +kernel
  obtain ⟨r, hr⟩ := List.length_eq_one_iff.mp hlength
  have hmem : .declare "members" .query true none .array none ∈ removeMembers.queryParams := by
    decide +kernel
  refine ⟨removeMembers_mem, hdistinct, hbody, r, hr, ?_⟩
  rcases required_mem_query rfl removeMembers_mem hdistinct hbody (hr ▸ List.mem_cons_self) hmem rfl
    with h | ⟨-, hempty⟩
  · exact h
  · cases hempty

/-- Members are removed without any being named: the list that is required is given, and empty. -/
theorem required_not_mem_query_members :
    let args : Value := .object [("team", .string "core"), ("members", .array [])]
    removeMembers ∈ (exampleToolbox teamMembers).registry.operations ∧
      (removeMembers.parameters.map (·.name)).Nodup ∧
      Field.bodyName ∉ removeMembers.parameters.map (·.name) ∧
      .declare "members" .query true none .array none ∈ removeMembers.queryParams ∧
      ∃ r, ((exampleToolbox teamMembers).dispatched exampleEnvironment removeMembers.tool args
          fun _ => .ok ⟨204, [], []⟩).2 = [r] ∧
        r.url.text = "http://127.0.0.1:8080/teams/core/members" ∧
        "members" ∉ (Url.Form.decode (r.url.query.getD "")).map (·.1) := by
  intro args
  have hurls : ((exampleToolbox teamMembers).dispatched exampleEnvironment removeMembers.tool args
      fun _ => .ok ⟨204, [], []⟩).2.map (fun r => (r.url.text, r.url.query)) =
        [("http://127.0.0.1:8080/teams/core/members", none)] := by
    decide +kernel
  obtain ⟨r, hr, hurl⟩ := List.map_eq_singleton_iff.mp hurls
  obtain ⟨htext, hquery⟩ := Prod.mk.inj hurl
  refine ⟨removeMembers_mem, by decide +kernel, by decide +kernel, by decide +kernel, r, hr, htext, ?_⟩
  rw [hquery]
  decide

end Toolbox
end ApiToolbox
