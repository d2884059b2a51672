import ApiToolbox.Proofs.InputSchema.Definitions
import ApiToolbox.Proofs.InputSchema.Idempotent
import ApiToolbox.RequestUrl

/-! Addresses of arguments that were converted to texts. Reading arguments turns scalars into texts, and so does
an address. Both give a scalar the same text, so the address of what was read is that of what was given. -/

namespace ApiToolbox

open Json (Value)
open InputSchema (argument?)

/-! ### Converted values in an address -/

namespace RequestUrl

variable {v w : Value}

theorem addressText_of_scalarText? {text : String} (h : v.scalarText? = some text) :
    v.addressText = text ∧ v.isNull = false := by
  cases v with
  | string _ | number _ | bool _ =>
    obtain rfl := Option.some.inj h
    exact ⟨rfl, rfl⟩
  | _ => cases h

theorem addressText_of_toText? (h : v.toText? = some w) :
    w.addressText = v.addressText ∧ v.isNull = false ∧ w.isNull = false := by
  obtain ⟨text, htext, rfl⟩ := Option.map_eq_some_iff.mp h
  obtain ⟨hsame, hnull⟩ := addressText_of_scalarText? htext
  exact ⟨hsame.symm, hnull, rfl⟩

theorem pairs_of_toText? (h : v.toText? = some w) (key : String) : pairs key w = pairs key v := by
  obtain ⟨text, htext, rfl⟩ := Option.map_eq_some_iff.mp h
  cases v with
  | string _ | number _ | bool _ =>
    obtain rfl := Option.some.inj htext
    rfl
  | _ => cases htext

/-- A list of scalars gives the same pairs as the list of their texts. -/
theorem pairs_of_toTexts? (h : v.toTexts? = some w) (key : String) : pairs key w = pairs key v := by
  cases v with
  | array vs =>
    obtain ⟨ws, hws, rfl⟩ := Option.map_eq_some_iff.mp h
    rw [mapM_eq_some_iff] at hws
    clear h
    simp only [pairs]
    induction hws with
    | nil => rfl
    | cons hitem _ ih =>
      obtain ⟨htext, hnull, hnull'⟩ := addressText_of_toText? hitem
      simp only [List.filter_cons, hnull, hnull', Bool.not_false, if_true, List.map_cons, htext, ih]
  | _ => cases h

/-- A value that is converted for a field of one text, or not at all, keeps its text. -/
theorem addressText_convert? {f : Field} (hkind : f.kind = .body ∨ f.kind = .string)
    (h : f.convert? v = some w) : w.addressText = v.addressText := by
  rw [Field.convert?] at h
  rcases hkind with hbody | hstring
  · rw [hbody] at h
    rw [Option.some.inj h]
  · rw [hstring] at h
    exact (addressText_of_toText? h).1

/-- A value that is converted for a field of texts, or not at all, keeps its pairs. -/
theorem pairs_convert? {f : Field} (hkind : f.kind = .body ∨ f.kind = .string ∨ f.kind = .stringArray)
    (h : f.convert? v = some w) (key : String) : pairs key w = pairs key v := by
  rw [Field.convert?] at h
  rcases hkind with hbody | hstring | hlist
  · rw [hbody] at h
    rw [Option.some.inj h]
  · rw [hstring] at h
    exact pairs_of_toText? h key
  · rw [hlist] at h
    exact pairs_of_toTexts? h key

/-! ### What an address depends on -/

variable {args args' : Members Value} {op : Operation}

theorem fill_congr {params : List Parameter}
    (h : ∀ p ∈ params, pathText? args p.name = pathText? args' p.name) (template : List Char) :
    fill args params template = fill args' params template := by
  induction params generalizing template with
  | nil => rfl
  | cons p rest ih =>
    rw [fill, fill, h p List.mem_cons_self]
    cases pathText? args' p.name with
    | none => rfl
    | some text => exact ih (fun q hq => h q (List.mem_cons_of_mem p hq)) _

/-- An address depends on the texts of the path parameters and on the pairs of the query parameters. -/
theorem build_congr (base : Url) (hpath : ∀ p ∈ op.pathParams, pathText? args p.name = pathText? args' p.name)
    (hquery : ∀ p ∈ op.queryParams, ((args.get? p.name).map (pairs p.name)).getD [] =
      ((args'.get? p.name).map (pairs p.name)).getD []) :
    build base op args = build base op args' := by
  have hpaths : path op args = path op args' := by
    rw [path, path, fill_congr hpath]
  have hpairs : queryPairs op args = queryPairs op args' := List.flatMap_congr hquery
  rw [build, build, hpaths, hpairs]

/-- Null stands in a query like an argument that is not given. -/
theorem pairs_argument? (args : Members Value) (n : String) :
    ((args.get? n).map (pairs n)).getD [] = ((argument? (.object args) n).map (pairs n)).getD [] := by
  show _ = (((args.get? n).filter (!·.isNull)).map (pairs n)).getD []
  cases args.get? n with
  | none => rfl
  | some v => cases v <;> rfl

end RequestUrl

/-! ### What is read for a parameter -/

namespace InputSchema

/-- Where names are distinct, the field of a parameter is its own, unless the body has its name. -/
theorem exists_field?_of_mem {op : Operation} (hnames : (op.parameters.map (·.name)).Nodup) {p : Parameter}
    (hp : p ∈ op.parameters) :
    ∃ f, (ofOperation op).field? p.name = some f ∧ (f.kind = .body ∨ f = .ofParameter p) := by
  by_cases hfree : op.body = none ∨ p.name ≠ Field.bodyName
  · have hlast : op.parameters.reverse.find? (·.name = p.name) = some p :=
      find?_key_of_mem (by rwa [List.map_reverse, List.nodup_reverse]) (List.mem_reverse.mpr hp)
    refine ⟨.ofParameter p, ?_, .inr rfl⟩
    rw [field?_eq_parameter hfree, hlast, Option.map_some]
  · obtain ⟨hsome, hname⟩ := not_or.mp hfree
    obtain ⟨spec, hspec⟩ := Option.ne_none_iff_exists'.mp hsome
    exact ⟨.ofBody spec, field?_eq_some_iff.mpr (.body hspec (not_not.mp hname)), .inl rfl⟩

/-- What is read under the name of a field is its argument in converted form, and nothing if there is no
argument. -/
theorem argument?_validate {s : InputSchema} {args : Value} {read : Members Value}
    (h : s.validate args = .ok read) {n : String} {f : Field} (hf : s.field? n = some f) :
    (argument? args n = none ∧ argument? (.object read) n = none) ∨
      ∃ v w, argument? args n = some v ∧ f.convert? v = some w ∧ argument? (.object read) n = some w := by
  have hread : read.get? n = (argument? args n).bind f.convert? := by
    rw [get?_validate h, hf, Option.bind_some]
  have hargument : argument? (.object read) n = (read.get? n).filter (!·.isNull) := rfl
  rw [hargument, hread]
  have hcases := cases_of_readFields (readFields_of_validate h) (List.mem_of_find?_eq_some hf)
  rw [get?_members, name_of_field? hf] at hcases
  rcases hcases with ⟨hnone, -⟩ | ⟨v, w, hv, hw⟩
  · replace hnone : argument? args n = none := hnone
    exact .inl ⟨hnone, by rw [hnone]; rfl⟩
  · replace hv : argument? args n = some v := hv
    have hnull : v.isNull = false := by simpa using (Option.filter_eq_some_iff.mp hv).2
    refine .inr ⟨v, w, hv, hw, ?_⟩
    simp [hv, hw, Option.filter, (Field.convert?_of_convert? hnull hw).2]

end InputSchema

namespace RequestUrl

/-- The path parameters of an operation are texts, its query parameters are texts or lists, and no two of its
parameters have the same name. -/
structure TakesTexts (op : Operation) : Prop where
  names : (op.parameters.map (·.name)).Nodup
  path : ∀ p ∈ op.pathParams, p.type = .string
  query : ∀ p ∈ op.queryParams, p.type = .string ∨ p.type = .array

/-- Where all parameters are texts or lists, arguments that are accepted have the same address, or lack the same
path parameter, whether they are put into it as they were given or as they were read. -/
theorem build_of_validate (base : Url) {op : Operation} (hop : TakesTexts op) {args read : Members Value}
    (h : (InputSchema.ofOperation op).validate (.object args) = .ok read) :
    build base op read = build base op args := by
  refine build_congr base (fun p hp => ?_) fun p hp => ?_
  · obtain ⟨f, hf, hkind⟩ := InputSchema.exists_field?_of_mem hop.names (List.mem_append_left _ hp)
    have hkind : f.kind = .body ∨ f.kind = .string := by
      refine hkind.imp_right ?_
      rintro rfl
      rw [Field.ofParameter, hop.path p hp]
      rfl
    show ((argument? (.object read) p.name).map Value.addressText).filter _ =
      ((argument? (.object args) p.name).map Value.addressText).filter _
    rcases InputSchema.argument?_validate h hf with ⟨hnone, hread⟩ | ⟨v, w, hv, hw, hread⟩
    · rw [hnone, hread]
    · rw [hv, hread, Option.map_some, Option.map_some, addressText_convert? hkind hw]
  · obtain ⟨f, hf, hkind⟩ := InputSchema.exists_field?_of_mem hop.names (List.mem_append_right _ hp)
    have hkind : f.kind = .body ∨ f.kind = .string ∨ f.kind = .stringArray := by
      refine hkind.imp_right ?_
      rintro rfl
      rw [Field.ofParameter]
      rcases hop.query p hp with htype | htype
      · rw [htype]
        exact .inl rfl
      · rw [htype]
        exact .inr rfl
    rw [pairs_argument?, pairs_argument?]
    rcases InputSchema.argument?_validate h hf with ⟨hnone, hread⟩ | ⟨v, w, hv, hw, hread⟩
    · rw [hnone, hread]
    · rw [hv, hread, Option.map_some, Option.map_some, pairs_convert? hkind hw]

/-- Numbers, truth values and texts in the path and in lists, a null, an argument that is not known, and a query
parameter with the name of the body. -/
theorem build_of_validate_items :
    let op : Operation := ⟨"items_id", .put, "/items/\x7bid\x7d", "", none,
      [.declare "id" .path true none .string none],
      [.declare "tags" .query true none .array none, .declare "all" .query false none .string none,
        .declare "body" .query false none .array none, .declare "q" .query false none .string none],
      some ⟨false, none⟩⟩
    let args : Members Value := [("more", .int 1), ("body", .object [("a", .null)]), ("q", .null),
      ("tags", .array [.number (.double ⟨false, 0x18000000000000, -52⟩), .bool true, .string "x y"]),
      ("all", .bool false), ("id", .int (-7))]
    let read : Members Value := [("id", .string "-7"),
      ("tags", .array [.string "1.5", .string "true", .string "x y"]), ("all", .string "false"),
      ("body", .object [("a", .null)])]
    let base : Url := ⟨"http", some ⟨"", "", .ipv4 2130706433, some 8080⟩, .segments [""], none, none⟩
    TakesTexts op ∧ (InputSchema.ofOperation op).validate (.object args) = .ok read ∧
      build base op read = build base op args ∧ (build base op args).toOption.map Url.text =
        some "http://127.0.0.1:8080/items/-7?tags=1.5&tags=true&tags=x%20y&all=false&body=%7B%22a%22%3Anull%7D" := by
  intro op args read base
  have htexts : TakesTexts op := ⟨by decide, by decide, by decide⟩
  have hread : (InputSchema.ofOperation op).validate (.object args) = .ok read := by decide +kernel
  exact ⟨htexts, hread, build_of_validate base htexts hread, by decide +kernel⟩

end RequestUrl
end ApiToolbox
