import ApiToolbox.Json.Value
import Mathlib.Data.List.Induction
import Mathlib.Data.List.Nodup

/-! Members as a map: what is looked up in members that were put one after the other. And the items of a
value. -/

namespace ApiToolbox

/-- Where all keys are distinct, an item is the one that is found under its key. -/
theorem find?_key_of_mem {α κ : Type} [DecidableEq κ] {key : α → κ} {l : List α}
    (h : (l.map key).Nodup) {a : α} (ha : a ∈ l) : l.find? (key · = key a) = some a := by
  obtain ⟨b, hb⟩ : ∃ b, l.find? (key · = key a) = some b :=
    Option.isSome_iff_exists.mp (List.find?_isSome.mpr ⟨a, ha, by simp⟩)
  have hkey : key b = key a := by simpa using List.find?_some hb
  rw [hb, List.inj_on_of_nodup_map h (List.mem_of_find?_eq_some hb) ha hkey]

namespace Members

variable {α : Type}

@[simp] theorem ofList_nil : ofList ([] : List (String × α)) = [] := rfl

theorem ofList_concat (es : List (String × α)) (k : String) (v : α) :
    ofList (es ++ [(k, v)]) = (ofList es).put k v := by
  simp [ofList]

theorem find?_key_eq (ms : Members α) (key : String) :
    ms.find? (·.1 = key) = (ms.get? key).map (key, ·) := by
  induction ms with
  | nil => rfl
  | cons m rest ih =>
    obtain ⟨k, v⟩ := m
    by_cases hk : k = key
    · simp [get?, hk]
    · simp [get?, hk, ih]

theorem mem_of_get? {ms : Members α} {key : String} {value : α} (h : ms.get? key = some value) :
    (key, value) ∈ ms := by
  have hfound := find?_key_eq ms key
  rw [h] at hfound
  exact List.mem_of_find?_eq_some hfound

theorem mem_put {ms : Members α} {key : String} {value : α} {m : String × α}
    (h : m ∈ ms.put key value) : m = (key, value) ∨ m ∈ ms := by
  induction ms with
  | nil => exact .inl (by simpa [put] using h)
  | cons n rest ih =>
    obtain ⟨k, v⟩ := n
    rw [put] at h
    split at h
    · exact (List.mem_cons.mp h).imp_right (List.mem_cons_of_mem _)
    · rcases List.mem_cons.mp h with rfl | h
      · exact .inr List.mem_cons_self
      · exact (ih h).imp_right (List.mem_cons_of_mem _)

/-- A key that is not there yet goes to the end. -/
theorem put_of_not_mem {ms : Members α} {key : String} (h : key ∉ ms.keys) (value : α) :
    ms.put key value = ms ++ [(key, value)] := by
  induction ms with
  | nil => rfl
  | cons m rest ih =>
    obtain ⟨k, v⟩ := m
    obtain ⟨hk, hrest⟩ : key ≠ k ∧ key ∉ keys rest := not_or.mp (mt List.mem_cons.mpr h)
    rw [put, if_neg (Ne.symm hk), ih hrest, List.cons_append]

/-- Entries under distinct keys are found, and nothing else. -/
theorem get?_ofList_eq_some_iff {es : List (String × α)} (h : (es.map (·.1)).Nodup) (k : String)
    (v : α) : (ofList es).get? k = some v ↔ (k, v) ∈ es := by
  induction es using List.reverseRecOn with
  | nil => simp [get?]
  | append_singleton es e ih =>
    obtain ⟨key, value⟩ := e
    rw [List.map_append, List.nodup_append] at h
    obtain ⟨hes, -, hdisj⟩ := h
    rw [ofList_concat]
    by_cases hk : k = key
    · subst hk
      have hnot : (k, v) ∉ es := fun hmem =>
        hdisj k (List.mem_map.mpr ⟨_, hmem, rfl⟩) k (by simp) rfl
      simp [get?_put_self, hnot, eq_comm]
    · rw [get?_put_of_ne hk, ih hes]
      simp [hk]

/-! ### Distinct keys -/

/-- Entries under distinct keys are the members that they give. -/
theorem ofList_eq_self {es : List (String × α)} (h : (es.map (·.1)).Nodup) : ofList es = es := by
  induction es using List.reverseRecOn with
  | nil => rfl
  | append_singleton es e ih =>
    obtain ⟨k, v⟩ := e
    rw [List.map_append, List.nodup_append] at h
    obtain ⟨hes, -, hdisj⟩ := h
    have hnew : k ∉ keys es := fun hk => hdisj k hk k (by simp) rfl
    rw [ofList_concat, ih hes, put_of_not_mem hnew]

theorem get?_eq_some_of_mem {ms : Members α} (h : ms.keys.Nodup) {key : String} {value : α}
    (hm : (key, value) ∈ ms) : ms.get? key = some value := by
  have hfound := find?_key_of_mem h hm
  rw [find?_key_eq, Option.map_eq_some_iff] at hfound
  obtain ⟨v, hv, heq⟩ := hfound
  rw [hv, (Prod.mk.inj heq).2]

theorem get?_eq_some_iff_mem {ms : Members α} (h : ms.keys.Nodup) {key : String} {value : α} :
    ms.get? key = some value ↔ (key, value) ∈ ms :=
  ⟨mem_of_get?, get?_eq_some_of_mem h⟩

theorem nodup_keys_put {ms : Members α} (h : ms.keys.Nodup) (key : String) (value : α) :
    (ms.put key value).keys.Nodup := by
  rw [keys_put]
  split
  · exact h
  · next hnot => exact List.concat_eq_append ▸ h.concat hnot

end Members

/-- What is listed in a value that may be absent, or no list, is listed in a list. -/
theorem Json.Value.exists_of_mem_items {v : Option Json.Value} {item : Json.Value}
    (h : item ∈ (v.bind Json.Value.items?).getD []) : ∃ vs, v = some (.array vs) ∧ item ∈ vs := by
  cases hitems : v.bind Json.Value.items? with
  | none => simp [hitems] at h
  | some vs =>
    obtain ⟨w, rfl, hw⟩ := Option.bind_eq_some_iff.mp hitems
    cases w with
    | array items =>
      obtain rfl := Option.some.inj hw
      exact ⟨items, rfl, by simpa [hitems] using h⟩
    | _ => cases hw

end ApiToolbox
