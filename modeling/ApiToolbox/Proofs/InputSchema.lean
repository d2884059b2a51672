import ApiToolbox.InputSchema
import ApiToolbox.Proofs.Json.Members
import ApiToolbox.Proofs.Steps

/-! The fields of an input by their names, and what arguments are converted to. Where a name is defined more
than once the last definition counts, and what is read from arguments is read under the name of a field. -/

namespace ApiToolbox

open Json (Value)

/-! ### What conversions give -/

namespace Json.Value

variable {v w : Value}

theorem exists_int_of_toInteger? (h : v.toInteger? = some w) : ∃ n, w = .int n := by
  cases v with
  | number x =>
    cases x with
    | integer n => exact ⟨n, (Option.some.inj h).symm⟩
    | double x =>
      obtain ⟨n, -, h⟩ := Option.bind_eq_some_iff.mp h
      split at h
      · exact ⟨_, (Option.some.inj h).symm⟩
      · cases h
  | string s =>
    obtain ⟨n, -, rfl⟩ := Option.map_eq_some_iff.mp h
    exact ⟨n, rfl⟩
  | _ => cases h

theorem exists_number_of_toNumber? (h : v.toNumber? = some w) : ∃ n, w = .number n := by
  cases v with
  | number n => exact ⟨n, (Option.some.inj h).symm⟩
  | string s =>
    rw [toNumber?] at h
    split at h
    · exact ⟨_, (Option.some.inj h).symm⟩
    · obtain ⟨x, -, rfl⟩ := Option.map_eq_some_iff.mp h
      exact ⟨_, rfl⟩
  | _ => cases h

theorem exists_bool_of_toBoolean? (h : v.toBoolean? = some w) : ∃ b, w = .bool b := by
  cases v with
  | bool b => exact ⟨b, (Option.some.inj h).symm⟩
  | number x => cases x <;> exact ⟨_, (Option.some.inj h).symm⟩
  | string s =>
    simp only [toBoolean?] at h
    split at h
    · exact ⟨_, (Option.some.inj h).symm⟩
    · split at h
      · exact ⟨_, (Option.some.inj h).symm⟩
      · cases h
  | _ => cases h

end Json.Value

/-- What is converted for a field of one value is a scalar. -/
theorem Field.exists_scalarText?_of_convert? {f : Field} {v w : Value} (hbody : f.kind ≠ .body)
    (hlist : f.kind ≠ .stringArray) (h : f.convert? v = some w) : ∃ text, w.scalarText? = some text := by
  rw [convert?] at h
  cases hkind : f.kind with
  | integer =>
    rw [hkind] at h
    obtain ⟨n, rfl⟩ := Value.exists_int_of_toInteger? h
    exact ⟨_, rfl⟩
  | number =>
    rw [hkind] at h
    obtain ⟨n, rfl⟩ := Value.exists_number_of_toNumber? h
    exact ⟨_, rfl⟩
  | boolean =>
    rw [hkind] at h
    obtain ⟨b, rfl⟩ := Value.exists_bool_of_toBoolean? h
    exact ⟨_, rfl⟩
  | string =>
    rw [hkind] at h
    obtain ⟨s, -, rfl⟩ := Option.map_eq_some_iff.mp h
    exact ⟨s, rfl⟩
  | stringArray => exact absurd hkind hlist
  | body => exact absurd hkind hbody

namespace InputSchema

/-! ### Definitions in turn -/

theorem find?_put (f : Field) (fs : List Field) (n : String) :
    (put f fs).find? (·.name = n) = if f.name = n then some f else fs.find? (·.name = n) := by
  induction fs with
  | nil => by_cases h : f.name = n <;> simp [put, h]
  | cons g rest ih =>
    rw [put]
    by_cases hg : g.name = f.name
    · by_cases h : f.name = n
      · simp [hg, h]
      · simp [hg, h]
    · rw [if_neg hg, List.find?_cons, List.find?_cons, ih]
      by_cases h : f.name = n
      · have hne : g.name ≠ n := fun heq => hg (heq.trans h.symm)
        simp [h, hne]
      · simp [h]

theorem names_put (f : Field) (fs : List Field) : (put f fs).map (·.name) =
    if f.name ∈ fs.map (·.name) then fs.map (·.name) else fs.map (·.name) ++ [f.name] := by
  induction fs with
  | nil => simp [put]
  | cons g rest ih =>
    rw [put]
    by_cases hg : g.name = f.name
    · simp [hg]
    · rw [if_neg hg, List.map_cons, ih]
      have hiff : f.name ∈ (g :: rest).map (·.name) ↔ f.name ∈ rest.map (·.name) := by
        simp [Ne.symm hg]
      by_cases hmem : f.name ∈ rest.map (·.name)
      · rw [if_pos hmem, if_pos (hiff.mpr hmem), List.map_cons]
      · rw [if_neg hmem, if_neg (mt hiff.mp hmem), List.map_cons, List.cons_append]

theorem nodup_names_foldl (defs : List Field) {fs : List Field} (h : (fs.map (·.name)).Nodup) :
    ((defs.foldl (fun fs f => put f fs) fs).map (·.name)).Nodup := by
  induction defs generalizing fs with
  | nil => exact h
  | cons f rest ih =>
    apply ih
    rw [names_put]
    split
    · exact h
    · next hnot => exact List.concat_eq_append ▸ h.concat hnot

/-- The field of a name is the last of its definitions, if there is one. -/
theorem find?_foldl (defs fs : List Field) (n : String) :
    (defs.foldl (fun fs f => put f fs) fs).find? (·.name = n) =
      (defs.reverse.find? (·.name = n)).or (fs.find? (·.name = n)) := by
  induction defs generalizing fs with
  | nil => simp
  | cons f rest ih =>
    rw [List.foldl_cons, ih, find?_put, List.reverse_cons, List.find?_append, Option.or_assoc]
    congr 1
    by_cases h : f.name = n <;> simp [h]

/-- The field of a name. -/
def field? (s : InputSchema) (n : String) : Option Field := s.fields.find? (·.name = n)

theorem name_of_field? {s : InputSchema} {n : String} {f : Field} (h : s.field? n = some f) :
    f.name = n := by
  simpa using List.find?_some h

theorem nodup_names_ofOperation (op : Operation) :
    ((ofOperation op).fields.map (·.name)).Nodup :=
  nodup_names_foldl _ List.nodup_nil

/-- The field of a name is that of the body, else of the last query parameter, else of the last path
parameter with the name. -/
theorem field?_ofOperation (op : Operation) (n : String) : (ofOperation op).field? n =
    ((op.body.map Field.ofBody).filter (·.name = n)).or
      (((op.queryParams.reverse.find? (·.name = n)).map .ofParameter).or
        ((op.pathParams.reverse.find? (·.name = n)).map .ofParameter)) := by
  have hlast (ps : List Parameter) :
      (ps.map Field.ofParameter).reverse.find? (·.name = n) =
        (ps.reverse.find? (·.name = n)).map .ofParameter := by
    rw [← List.map_reverse, List.find?_map]
    rfl
  have hbody : (op.body.map Field.ofBody).toList.reverse.find? (·.name = n) =
      (op.body.map Field.ofBody).filter (·.name = n) := by
    cases op.body with
    | none => rfl
    | some spec => by_cases h : (Field.ofBody spec).name = n <;> simp [h, Option.filter]
  rw [field?, ofOperation, find?_foldl, List.reverse_append, List.find?_append, hbody,
    Operation.parameters, List.map_append, List.reverse_append, List.find?_append, hlast, hlast]
  simp

theorem field?_bodyName {op : Operation} {spec : BodySpec} (hspec : op.body = some spec) :
    (ofOperation op).field? Field.bodyName = some (.ofBody spec) := by
  simp [field?_ofOperation, hspec, Field.ofBody, Option.filter]

/-- A name that the body leaves free has the field of the last parameter of that name. -/
theorem field?_eq_parameter {op : Operation} {n : String} (hbody : op.body = none ∨ n ≠ Field.bodyName) :
    (ofOperation op).field? n = (op.parameters.reverse.find? (·.name = n)).map .ofParameter := by
  have hnone : (op.body.map Field.ofBody).filter (·.name = n) = none := by
    rcases hbody with hnone | hne
    · rw [hnone]
      rfl
    · rw [Option.filter_eq_none_iff]
      intro f hf
      obtain ⟨spec, -, rfl⟩ := Option.map_eq_some_iff.mp hf
      simp [Field.ofBody, Ne.symm hne]
  rw [field?_ofOperation, hnone, Operation.parameters, List.reverse_append, List.find?_append,
    Option.none_or, Option.map_or]

/-! ### Required names -/

theorem mem_required_iff {op : Operation} {n : String} :
    n ∈ (ofOperation op).required ↔ ∃ f, (ofOperation op).field? n = some f ∧ f.required := by
  simp only [required, List.mem_map, List.mem_filter]
  constructor
  · rintro ⟨f, ⟨hmem, hrequired⟩, rfl⟩
    exact ⟨f, find?_key_of_mem (nodup_names_ofOperation op) hmem, hrequired⟩
  · rintro ⟨f, hf, hrequired⟩
    exact ⟨f, ⟨List.mem_of_find?_eq_some hf, hrequired⟩, name_of_field? hf⟩

/-- A JSON schema asks for a name when its list of required names has it. -/
def Asks (schema : Members Value) (n : String) : Prop :=
  ∃ names, schema.get? "required" = some (.array names) ∧ .string n ∈ names

theorem asks_jsonSchema_iff {s : InputSchema} {n : String} : Asks s.jsonSchema n ↔ n ∈ s.required := by
  by_cases h : s.required = []
  · simp [Asks, jsonSchema, Members.get?, h]
  · simp [Asks, jsonSchema, Members.get?, h]

/-! ### Reading arguments -/

/-- The argument of a name; null counts as absent. -/
def argument? (args : Value) (n : String) : Option Value := (args.member? n).filter (!·.isNull)

theorem get?_readFields {args : Members Value} {fs : List Field} {out : Members Value}
    (h : readFields args fs = .ok out) (n : String) : out.get? n =
      (fs.find? (·.name = n)).bind fun f => ((args.get? n).filter (!·.isNull)).bind f.convert? := by
  induction fs generalizing out with
  | nil =>
    obtain rfl := Except.ok.inj h
    rfl
  | cons f rest ih =>
    rw [readFields] at h
    split at h
    · next habsent =>
      split at h
      · cases h
      · rw [ih h]
        by_cases hn : f.name = n
        · rw [← hn, habsent]
          simp
        · simp [hn]
    · next v hv =>
      split at h
      · cases h
      · next w hw =>
        obtain ⟨out', hout', rfl⟩ := map_eq_ok_iff.mp h
        by_cases hn : f.name = n
        · rw [hn] at hv
          simp [Members.get?, hn, hv, hw]
        · simp [Members.get?, hn, ih hout']

/-- Fields that are read have an argument that can be converted, or may be without one. -/
theorem cases_of_readFields {args : Members Value} {fs : List Field} {out : Members Value}
    (h : readFields args fs = .ok out) {f : Field} (hf : f ∈ fs) :
    ((args.get? f.name).filter (!·.isNull) = none ∧
        ¬ (f.required = true ∧ f.source = .parameter .query)) ∨
      ∃ v w, (args.get? f.name).filter (!·.isNull) = some v ∧ f.convert? v = some w := by
  induction fs generalizing out with
  | nil => cases hf
  | cons g rest ih =>
    rw [readFields] at h
    split at h
    · next habsent =>
      split at h
      · cases h
      · next hfree =>
        rcases List.mem_cons.mp hf with rfl | hf
        · exact .inl ⟨habsent, by simpa using hfree⟩
        · exact ih h hf
    · next v hv =>
      split at h
      · cases h
      · next w hw =>
        obtain ⟨out', hout', -⟩ := map_eq_ok_iff.mp h
        rcases List.mem_cons.mp hf with rfl | hf
        · exact .inr ⟨v, w, hv, hw⟩
        · exact ih hout' hf

theorem readFields_of_validate {s : InputSchema} {args : Value} {out : Members Value}
    (h : s.validate args = .ok out) : readFields (args.members?.getD []) s.fields = .ok out := by
  unfold validate at h
  split at h
  · exact h
  · exact h
  · cases h

theorem get?_members (args : Value) (n : String) :
    (args.members?.getD []).get? n = args.member? n := by
  cases h : args.members? <;> simp [Value.member?, h, Members.get?]

/-- What is read under a name is the argument of the name, converted by its field. -/
theorem get?_validate {s : InputSchema} {args : Value} {out : Members Value}
    (h : s.validate args = .ok out) (n : String) :
    out.get? n = (s.field? n).bind fun f => (argument? args n).bind f.convert? := by
  rw [get?_readFields (readFields_of_validate h), get?_members]
  rfl

/-- Arguments that are accepted have every required query parameter, in a form that can be converted. -/
theorem exists_convert?_of_validate {s : InputSchema} {args : Value} {out : Members Value}
    (h : s.validate args = .ok out) {n : String} {f : Field} (hf : s.field? n = some f)
    (hrequired : f.required = true) (hquery : f.source = .parameter .query) :
    ∃ v w, argument? args n = some v ∧ f.convert? v = some w := by
  have hmem : f ∈ s.fields := List.mem_of_find?_eq_some hf
  rcases cases_of_readFields (readFields_of_validate h) hmem with ⟨-, hfree⟩ | ⟨v, w, hv, hw⟩
  · exact absurd ⟨hrequired, hquery⟩ hfree
  · rw [get?_members, name_of_field? hf] at hv
    exact ⟨v, w, hv, hw⟩

end InputSchema
end ApiToolbox
