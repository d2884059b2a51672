import ApiToolbox.Proofs.InputSchema
import ApiToolbox.Proofs.Json.Grouping

/-! Which fields an input has, and in which order. A name stands where its first definition puts it and is
what its last definition makes it, and the schema that is advertised lists the same names in the same
order. -/

namespace ApiToolbox

open Json (Value)

namespace InputSchema

/-! ### Names in order -/

/-- Names stand in the order in which they are first defined. -/
theorem names_foldl (defs : List Field) : (defs.foldl (fun fs f => put f fs) []).map (·.name) =
    (defs.map (·.name)).eraseDups := by
  induction defs using List.reverseRecOn with
  | nil => rfl
  | append_singleton defs f ih =>
    rw [List.foldl_append, List.foldl_cons, List.foldl_nil, names_put, ih, List.map_append,
      List.map_singleton, Members.eraseDups_concat]
    simp only [List.mem_eraseDups]

/-- The names that an operation defines for its input, in order: those of the path parameters, those of the
query parameters, and that of the body. A name may come again. -/
def definedNames (op : Operation) : List String :=
  op.pathParams.map (·.name) ++ op.queryParams.map (·.name) ++
    (op.body.map fun _ => Field.bodyName).toList

theorem names_ofOperation (op : Operation) :
    (ofOperation op).fields.map (·.name) = (definedNames op).eraseDups := by
  have hdefs : (op.parameters.map Field.ofParameter ++ (op.body.map Field.ofBody).toList).map (·.name) =
      definedNames op := by
    rw [definedNames, Operation.parameters, List.map_append, List.map_map, ← List.map_append]
    cases op.body with
    | none => rfl
    | some spec => rfl
  rw [ofOperation, names_foldl, hdefs]

/-! ### The definition that counts -/

/-- The field that a name is to have: that of the body, if there is one and this is its name, else that of
the last parameter of the name. -/
inductive Defines (op : Operation) (n : String) : Field → Prop where
  | body {spec : BodySpec} (h : op.body = some spec) (hn : n = Field.bodyName) :
      Defines op n (.ofBody spec)
  | parameter {before after : List Parameter} {p : Parameter}
      (h : op.pathParams ++ op.queryParams = before ++ p :: after) (hn : p.name = n)
      (hlast : ∀ q ∈ after, q.name ≠ n) (hbody : op.body = none ∨ n ≠ Field.bodyName) :
      Defines op n (.ofParameter p)

theorem field?_eq_some_iff {op : Operation} {n : String} {f : Field} :
    (ofOperation op).field? n = some f ↔ Defines op n f := by
  by_cases hfree : op.body = none ∨ n ≠ Field.bodyName
  · rw [field?_eq_parameter hfree, Option.map_eq_some_iff]
    constructor
    · rintro ⟨p, hp, rfl⟩
      obtain ⟨hname, after, before, hsplit, hlast⟩ := List.find?_eq_some_iff_append.mp hp
      have hsplit := congrArg List.reverse hsplit
      rw [List.reverse_reverse, List.reverse_append, List.reverse_cons, List.append_assoc] at hsplit
      refine .parameter hsplit (by simpa using hname) (fun q hq => ?_) hfree
      simpa using hlast q (List.mem_reverse.mp hq)
    · intro h
      cases h with
      | body hspec hn =>
        rcases hfree with hnone | hne
        · cases hnone.symm.trans hspec
        · exact absurd hn hne
      | @parameter before after p hsplit hn hlast =>
        refine ⟨p, ?_, rfl⟩
        have hnone : after.reverse.find? (·.name = n) = none := by
          rw [List.find?_eq_none]
          intro q hq
          simpa using hlast q (List.mem_reverse.mp hq)
        rw [Operation.parameters, hsplit, List.reverse_append, List.reverse_cons, List.find?_append,
          List.find?_append, hnone]
        simp [hn]
  · obtain ⟨hsome, rfl⟩ := not_or.mp hfree |>.imp_right not_not.mp
    obtain ⟨spec, hspec⟩ := Option.ne_none_iff_exists'.mp hsome
    rw [field?_bodyName hspec]
    constructor
    · intro h
      obtain rfl := Option.some.inj h
      exact .body hspec rfl
    · intro h
      cases h with
      | body hspec' hn =>
        obtain rfl := Option.some.inj (hspec.symm.trans hspec')
        rfl
      | parameter hsplit hn hlast hbody => exact absurd hbody hfree

/-- The input of an operation has each name that the operation defines once, in the order in which the names
first come. The field of a name is the one of the body or of the last parameter of that name. The schema that
is advertised has these names as its properties in this order, each with the schema of its field: none is lost
when the properties are put one after the other. It asks for those whose fields are required, in this
order. -/
theorem fields_ofOperation (op : Operation) :
    let s := ofOperation op
    let names := (definedNames op).eraseDups
    s.fields.map (·.name) = names ∧ names.Nodup ∧ (∀ f, f ∈ s.fields ↔ Defines op f.name f) ∧
      (∃ properties : Members Value, s.jsonSchema.get? "properties" = some (.object properties) ∧
        properties.keys = names ∧ (∀ f ∈ s.fields, properties.get? f.name = some f.jsonSchema) ∧
        properties = .ofList (s.fields.map fun f => (f.name, f.jsonSchema))) ∧
      ∃ required : List String, s.jsonSchema.get? "required" =
          (if required = [] then none else some (.array (required.map .string))) ∧
        required.Sublist names ∧ ∀ f ∈ s.fields, f.name ∈ required ↔ f.required = true := by
  intro s names
  have hnames : s.fields.map (·.name) = names := names_ofOperation op
  have hnodup : (s.fields.map (·.name)).Nodup := nodup_names_ofOperation op
  have hfield {f : Field} (hf : f ∈ s.fields) : s.field? f.name = some f := find?_key_of_mem hnodup hf
  have hkeys : Members.keys (s.fields.map fun f => (f.name, f.jsonSchema)) = names := by
    rw [← hnames, Members.keys, List.map_map]
    rfl
  have hdistinct : (Members.keys (s.fields.map fun f => (f.name, f.jsonSchema))).Nodup := by
    rwa [hkeys, ← hnames]
  refine ⟨hnames, hnames ▸ hnodup, fun f => ?_, ⟨_, rfl, hkeys, fun f hf => ?_, ?_⟩, s.required, ?_, ?_,
    fun f hf => ?_⟩
  · rw [← field?_eq_some_iff]
    exact ⟨hfield, List.mem_of_find?_eq_some⟩
  · exact Members.get?_eq_some_of_mem hdistinct (List.mem_map_of_mem hf)
  · exact (Members.ofList_eq_self hdistinct).symm
  · by_cases h : s.required = []
    · simp [jsonSchema, Members.get?, h]
    · simp [jsonSchema, Members.get?, h]
  · rw [← hnames]
    exact List.filter_sublist.map _
  · rw [mem_required_iff]
    constructor
    · rintro ⟨g, hg, hrequired⟩
      obtain rfl := Option.some.inj ((hfield hf).symm.trans hg)
      exact hrequired
    · exact fun hrequired => ⟨f, hfield hf, hrequired⟩

/-- A name that comes three times keeps its first place and takes the last definition, and a parameter named
like the body gives way to it. -/
example :
    let declare (name : String) (location : Location) (type : ParameterType) : Parameter :=
      .declare name location false none type none
    let op : Operation := ⟨"t", .post, "/t", "", none, [declare "a" .path .string, declare "body" .path .integer],
      [declare "b" .query .array, declare "a" .query .integer, declare "a" .query .boolean], some ⟨false, none⟩⟩
    (ofOperation op).fields.map (fun f => (f.name, f.kind, f.required)) =
      [("a", .boolean, false), ("body", .body, false), ("b", .stringArray, false)] := by
  decide

end InputSchema
end ApiToolbox
