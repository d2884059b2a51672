import ApiToolbox.Proofs.InputSchema
import ApiToolbox.Proofs.Json.Equality
import ApiToolbox.Proofs.Json.Members

/-! The schema of a tool and the reading of its arguments. Arguments that are as the schema wants them are
read as they are: nothing is refused, nothing is converted. -/

namespace ApiToolbox

open Json (Value)

/-! ### JSON schemas -/

namespace Json.Schema

/-- An integer that a word of 64 bits holds. -/
def isWord : Number → Bool
  | .integer n => Value.leastWord ≤ n && n ≤ Value.greatestWord
  | .double _ => false

/-- The types of a value. Only an integer that fits into a word counts as one. -/
def typesOf : Value → List String
  | .null => ["null"]
  | .bool _ => ["boolean"]
  | .number n => "number" :: if isWord n then ["integer"] else []
  | .string _ => ["string"]
  | .array _ => ["array"]
  | .object _ => ["object"]

/-- The types that a schema allows, which names one or a list of them. -/
def types? (schema : Value) : Option (List String) :=
  (schema.member? "type").map fun
    | .string t => [t]
    | .array ts => ts.filterMap Value.string?
    | _ => []

/-- Whether a value has a type that a schema allows. A schema without types allows all of them. -/
def allows (schema v : Value) : Bool := (types? schema).all (·.any (· ∈ typesOf v))

/-- Whether a value is as a schema wants it, and so are its items if it is a list. -/
def fits (schema v : Value) : Bool :=
  allows schema v && (schema.member? "items").all fun item => (v.items?.getD []).all (allows item)

/-- The properties of an object schema. -/
def properties (schema : Members Value) : Members Value :=
  ((schema.get? "properties").bind Value.members?).getD []

end Json.Schema

open Json.Schema (isWord typesOf types? allows fits properties)

/-! ### Values that fit a field -/

/-- The types of a kind of field. -/
def FieldKind.types : FieldKind → List String
  | .integer => ["integer"]
  | .number => ["number"]
  | .boolean => ["boolean"]
  | .stringArray => ["array"]
  | .string => ["string"]
  | .body => ["object", "string"]

namespace Field

variable {f : Field} {v : Value}

theorem types?_jsonSchema (f : Field) : types? f.jsonSchema = some f.kind.types := by
  cases hkind : f.kind <;> simp only [jsonSchema, hkind] <;> rfl

theorem allows_jsonSchema (f : Field) (v : Value) :
    allows f.jsonSchema v = f.kind.types.any (· ∈ typesOf v) := by
  rw [allows, types?_jsonSchema, Option.all_some]

theorem items_jsonSchema (hkind : f.kind = .stringArray) :
    f.jsonSchema.member? "items" = some (.object [("type", .string "string")]) := by
  simp only [jsonSchema, hkind]
  rfl

theorem exists_string_of_mem_typesOf (h : "string" ∈ typesOf v) : ∃ s, v = .string s := by
  cases v with
  | string s => exact ⟨s, rfl⟩
  | _ => simp [typesOf] at h

/-- A list of texts is converted to itself. -/
theorem toTexts?_of_forall {vs : List Value}
    (h : ∀ v ∈ vs, allows (.object [("type", .string "string")]) v = true) :
    Value.toTexts? (.array vs) = some (.array vs) := by
  have hsame : vs.mapM Value.toText? = some vs := by
    rw [mapM_eq_some_iff, List.forall₂_same]
    intro v hv
    have hstring : "string" ∈ typesOf v := by
      simpa [allows, types?, Value.member?, Value.members?, Members.get?] using h v hv
    obtain ⟨s, rfl⟩ := exists_string_of_mem_typesOf hstring
    rfl
  rw [Value.toTexts?, hsame, Option.map_some]

/-- What fits the schema of a field is converted to itself. -/
theorem convert?_of_fits (h : fits f.jsonSchema v = true) :
    f.convert? v = some v ∧ v.isNull = false := by
  obtain ⟨hallows, hitems⟩ := (Bool.and_eq_true _ _).mp h
  rw [allows_jsonSchema] at hallows
  rw [convert?]
  cases hkind : f.kind with
  | integer =>
    rw [hkind] at hallows
    cases v with
    | number n =>
      cases n with
      | integer n => exact ⟨rfl, rfl⟩
      | double x => simp [FieldKind.types, typesOf, isWord] at hallows
    | _ => simp [FieldKind.types, typesOf] at hallows
  | number =>
    rw [hkind] at hallows
    cases v with
    | number n => exact ⟨rfl, rfl⟩
    | _ => simp [FieldKind.types, typesOf] at hallows
  | boolean =>
    rw [hkind] at hallows
    cases v with
    | bool b => exact ⟨rfl, rfl⟩
    | _ => simp [FieldKind.types, typesOf] at hallows
  | stringArray =>
    rw [hkind] at hallows
    cases v with
    | array vs =>
      rw [items_jsonSchema hkind] at hitems
      exact ⟨toTexts?_of_forall (List.all_eq_true.mp hitems), rfl⟩
    | _ => simp [FieldKind.types, typesOf] at hallows
  | string =>
    rw [hkind] at hallows
    obtain ⟨s, rfl⟩ := exists_string_of_mem_typesOf (by simpa [FieldKind.types] using hallows)
    exact ⟨rfl, rfl⟩
  | body =>
    rw [hkind] at hallows
    cases v with
    | null => simp [FieldKind.types, typesOf] at hallows
    | _ => exact ⟨rfl, rfl⟩

end Field

namespace InputSchema

/-- Arguments that are as a schema wants them: what it asks for is there and not null, and what is there
has the type of its property. -/
structure Conforms (schema args : Members Value) : Prop where
  required : ∀ n, Asks schema n → ∃ v, args.get? n = some v ∧ v.isNull = false
  typed : ∀ n s v, (properties schema).get? n = some s → args.get? n = some v → fits s v = true

theorem properties_jsonSchema (s : InputSchema) :
    properties s.jsonSchema = s.fields.map fun f => (f.name, f.jsonSchema) := rfl

theorem get?_properties_jsonSchema {op : Operation} {f : Field} (hf : f ∈ (ofOperation op).fields) :
    (properties (ofOperation op).jsonSchema).get? f.name = some f.jsonSchema := by
  rw [properties_jsonSchema]
  refine Members.get?_eq_some_of_mem ?_ (List.mem_map.mpr ⟨f, hf, rfl⟩)
  rw [Members.keys, List.map_map]
  exact nodup_names_ofOperation op

/-- Arguments that fit each field that they give, and give each one that is required, are read as they
are. -/
theorem readFields_of_fits {args : Members Value} {fs : List Field}
    (hrequired : ∀ f ∈ fs, f.required = true → ∃ v, args.get? f.name = some v ∧ v.isNull = false)
    (htyped : ∀ f ∈ fs, ∀ v, args.get? f.name = some v → fits f.jsonSchema v = true) :
    readFields args fs = .ok (fs.filterMap fun f => (args.get? f.name).map fun v => (f.name, v)) := by
  induction fs with
  | nil => rfl
  | cons f rest ih =>
    have ih := ih (fun g hg => hrequired g (List.mem_cons_of_mem f hg))
      fun g hg => htyped g (List.mem_cons_of_mem f hg)
    rw [readFields]
    cases hget : args.get? f.name with
    | none =>
      have hoptional : f.required = false := by
        cases hreq : f.required with
        | false => rfl
        | true =>
          obtain ⟨v, hv, -⟩ := hrequired f List.mem_cons_self hreq
          simp [hget] at hv
      simp [hoptional, ih, hget]
    | some v =>
      obtain ⟨hconvert, hnull⟩ := Field.convert?_of_fits (htyped f List.mem_cons_self v hget)
      simp [Option.filter, hnull, hconvert, ih, hget, Except.map]

/-- A schema is honoured: arguments that conform to the schema of a tool are accepted, and what is read
is what they give for its properties, in the order of these and with every value as it is. -/
theorem validate_of_conforms (op : Operation) {args : Members Value}
    (h : Conforms (ofOperation op).jsonSchema args) :
    (ofOperation op).validate (.object args) =
      .ok ((properties (ofOperation op).jsonSchema).keys.filterMap fun n =>
        (args.get? n).map fun v => (n, v)) := by
  rw [properties_jsonSchema, Members.keys, List.map_map, List.filterMap_map, validate]
  refine readFields_of_fits (fun f hf hreq => ?_) fun f hf v hv => ?_
  · exact h.required f.name (asks_jsonSchema_iff.mpr
      (List.mem_map_of_mem (List.mem_filter.mpr ⟨hf, hreq⟩)))
  · exact h.typed f.name f.jsonSchema v (get?_properties_jsonSchema hf) hv

/-- An operation with a parameter of every type, two of them with one name, and a body; and arguments in
another order, with one that the operation does not know. -/
theorem validate_of_conforms_items :
    let op : Operation := ⟨"items_id", .put, "/items/\x7bid\x7d", "", none,
      [.declare "id" .path true none .string none],
      [.declare "limit" .query true none .integer none, .declare "ratio" .query false none .number none,
        .declare "all" .query false none .boolean none, .declare "tags" .query true none .array none,
        .declare "id" .query false none .integer none], some ⟨true, none⟩⟩
    let args : Members Value := [("body", .string "a=1"), ("tags", .array [.string "x", .string ""]),
      ("more", .null), ("id", .int 7), ("all", .bool false), ("limit", .int 18446744073709551615)]
    Conforms (ofOperation op).jsonSchema args ∧
      (ofOperation op).validate (.object args) = .ok [("id", .int 7),
        ("limit", .int 18446744073709551615), ("all", .bool false),
        ("tags", .array [.string "x", .string ""]), ("body", .string "a=1")] := by
  intro op args
  have hrequired : (ofOperation op).required = ["limit", "tags", "body"] := by decide +kernel
  have hproperties : ∀ p ∈ properties (ofOperation op).jsonSchema, ∀ v ∈ args.get? p.1,
      fits p.2 v = true := by
    decide +kernel
  have hconforms : Conforms (ofOperation op).jsonSchema args := by
    constructor
    · intro n hn
      rw [asks_jsonSchema_iff, hrequired] at hn
      have hn : n = "limit" ∨ n = "tags" ∨ n = "body" := by simpa using hn
      rcases hn with rfl | rfl | rfl <;> exact ⟨_, rfl, rfl⟩
    · intro n s v hs hv
      have hfound := Members.find?_key_eq (properties (ofOperation op).jsonSchema) n
      rw [hs] at hfound
      exact hproperties _ (List.mem_of_find?_eq_some hfound) v hv
  exact ⟨hconforms, (validate_of_conforms op hconforms).trans (by decide +kernel)⟩

end InputSchema

end ApiToolbox
