import ApiToolbox.Proofs.InputSchema
import ApiToolbox.Proofs.Json.Equality

/-! Reading arguments that have been read. What a conversion gives is left as it is when it is converted
again, so that arguments which were accepted are accepted again and read as they are. -/

namespace ApiToolbox

open Json (Value)

/-! ### Converted values -/

theorem Json.Value.toTexts?_of_toTexts? {v w : Value} (h : v.toTexts? = some w) :
    w.toTexts? = some w ∧ w.isNull = false := by
  cases v with
  | array vs =>
    obtain ⟨ws, hws, rfl⟩ := Option.map_eq_some_iff.mp h
    rw [mapM_eq_some_iff] at hws
    have hsame : ws.mapM toText? = some ws := by
      rw [mapM_eq_some_iff, List.forall₂_same]
      intro w hw
      obtain ⟨v, -, hv⟩ := exists_of_mem_forall₂ hws hw
      obtain ⟨text, -, rfl⟩ := Option.map_eq_some_iff.mp hv
      rfl
    exact ⟨by rw [toTexts?, hsame, Option.map_some], rfl⟩
  | _ => cases h

/-- What is converted for a field is converted to itself. -/
theorem Field.convert?_of_convert? {f : Field} {v w : Value} (hnull : v.isNull = false)
    (h : f.convert? v = some w) : f.convert? w = some w ∧ w.isNull = false := by
  rw [convert?] at h ⊢
  cases hkind : f.kind with
  | integer =>
    rw [hkind] at h
    obtain ⟨n, rfl⟩ := Value.exists_int_of_toInteger? h
    exact ⟨rfl, rfl⟩
  | number =>
    rw [hkind] at h
    obtain ⟨n, rfl⟩ := Value.exists_number_of_toNumber? h
    exact ⟨rfl, rfl⟩
  | boolean =>
    rw [hkind] at h
    obtain ⟨b, rfl⟩ := Value.exists_bool_of_toBoolean? h
    exact ⟨rfl, rfl⟩
  | stringArray =>
    rw [hkind] at h
    exact Value.toTexts?_of_toTexts? h
  | string =>
    rw [hkind] at h
    obtain ⟨text, -, rfl⟩ := Option.map_eq_some_iff.mp h
    exact ⟨rfl, rfl⟩
  | body =>
    rw [hkind] at h
    obtain rfl := Option.some.inj h
    exact ⟨rfl, hnull⟩

namespace InputSchema

/-! ### Reading what was read -/

/-- Arguments in which each field finds what was read for it are read to the same. -/
theorem readFields_of_read {args read : Members Value} {fs : List Field} {out : Members Value}
    (h : readFields args fs = .ok out)
    (hread : ∀ f ∈ fs, (read.get? f.name).filter (!·.isNull) =
      ((args.get? f.name).filter (!·.isNull)).bind f.convert?) :
    readFields read fs = .ok out := by
  induction fs generalizing out with
  | nil => exact h
  | cons f rest ih =>
    have hf := hread f List.mem_cons_self
    have hrest := fun g hg => hread g (List.mem_cons_of_mem f hg)
    rw [readFields] at h ⊢
    cases harg : (args.get? f.name).filter (!·.isNull) with
    | none =>
      rw [harg] at h hf
      simp only [Option.bind_none] at hf
      rw [hf]
      simp only at h ⊢
      split at h
      · cases h
      · next hoptional =>
        rw [if_neg hoptional]
        exact ih h hrest
    | some v =>
      rw [harg, Option.bind_some] at hf
      simp only [harg] at h
      cases hconvert : f.convert? v with
      | none =>
        rw [hconvert] at h
        cases h
      | some w =>
        have hnull : v.isNull = false := by simpa using (Option.filter_eq_some_iff.mp harg).2
        rw [hconvert] at h hf
        rw [hf]
        simp only [(Field.convert?_of_convert? hnull hconvert).1]
        obtain ⟨out', hout', rfl⟩ := map_eq_ok_iff.mp h
        rw [ih hout' hrest]
        rfl

/-- Reading is idempotent. Arguments that were accepted are accepted again, with the same names in the same
order and with the same values. -/
theorem validate_of_validate (op : Operation) {args : Value} {out : Members Value}
    (h : (ofOperation op).validate args = .ok out) :
    (ofOperation op).validate (.object out) = .ok out := by
  have hout := readFields_of_validate h
  refine readFields_of_read hout fun f hf => ?_
  have hfield : (ofOperation op).fields.find? (·.name = f.name) = some f :=
    find?_key_of_mem (nodup_names_ofOperation op) hf
  rw [get?_readFields hout, hfield, Option.bind_some]
  cases harg : ((args.members?.getD []).get? f.name).filter (!·.isNull) with
  | none => rfl
  | some v =>
    rw [Option.bind_some]
    cases hconvert : f.convert? v with
    | none => rfl
    | some w =>
      have hnull : v.isNull = false := by simpa using (Option.filter_eq_some_iff.mp harg).2
      simp [Option.filter, (Field.convert?_of_convert? hnull hconvert).2]

/-- Arguments of every kind, none of them in its own form, one of a name that is defined twice; and a
required query parameter. -/
theorem validate_of_validate_items :
    let op : Operation := ⟨"items_id", .put, "/items/\x7bid\x7d", "", none,
      [.declare "id" .path true none .string none],
      [.declare "limit" .query true none .integer none, .declare "ratio" .query false none .number none,
        .declare "all" .query false none .boolean none, .declare "tags" .query false none .array none,
        .declare "id" .query false none .integer none], some ⟨true, none⟩⟩
    let args : Members Value := [("body", .string "a=1"), ("all", .string " TRUE "), ("more", .null),
      ("tags", .array [.int 1, .bool true, .string " x"]), ("ratio", .string "1.5"),
      ("limit", .number (.double ⟨false, 0x18000000000000, -51⟩)), ("id", .string "+7\n")]
    let out : Members Value := [("id", .int 7), ("limit", .int 3),
      ("ratio", .number (.double ⟨false, 0x18000000000000, -52⟩)), ("all", .bool true),
      ("tags", .array [.string "1", .string "true", .string " x"]), ("body", .string "a=1")]
    (ofOperation op).validate (.object args) = .ok out ∧
      (ofOperation op).validate (.object out) = .ok out := by
  intro op args out
  have hread : (ofOperation op).validate (.object args) = .ok out := by decide +kernel
  exact ⟨hread, validate_of_validate op hread⟩

end InputSchema

end ApiToolbox
