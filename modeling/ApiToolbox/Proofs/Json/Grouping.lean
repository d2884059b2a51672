import ApiToolbox.Proofs.Json.Members

/-! Members gathered from entries among which a key may come again. Each key stands where it first comes,
with what its values give one after the other. -/

namespace ApiToolbox.Members

variable {α β : Type}

/-! ### Members told by their keys -/

theorem get?_eq_none_of_not_mem {ms : Members α} {key : String} (h : key ∉ ms.keys) :
    ms.get? key = none := by
  cases hget : ms.get? key with
  | none => rfl
  | some v => exact absurd (List.mem_map_of_mem (mem_of_get? hget)) h

/-- Where keys are distinct, members are told by their keys in order and by what is found under them. -/
theorem eq_of_get? {ms ns : Members α} (hnodup : ms.keys.Nodup) (hkeys : ms.keys = ns.keys)
    (hget : ∀ key, ms.get? key = ns.get? key) : ms = ns := by
  induction ms generalizing ns with
  | nil => exact (List.map_eq_nil_iff.mp hkeys.symm).symm
  | cons m rest ih =>
    obtain ⟨k, v⟩ := m
    cases ns with
    | nil => cases hkeys
    | cons n others =>
      obtain ⟨k', v'⟩ := n
      obtain ⟨rfl, hrest⟩ : k = k' ∧ keys rest = keys others := List.cons.inj hkeys
      obtain ⟨hnot, hnodup⟩ : k ∉ keys rest ∧ (keys rest).Nodup := List.nodup_cons.mp hnodup
      have hv : v = v' := by simpa [get?] using hget k
      have hothers : ∀ key, get? key rest = get? key others := by
        intro key
        by_cases hk : k = key
        · subst hk
          rw [get?_eq_none_of_not_mem hnot, get?_eq_none_of_not_mem (hrest ▸ hnot)]
        · simpa [get?, hk] using hget key
      rw [hv, ih hnodup hrest hothers]

theorem get?_map_key (f : String → α) (names : List String) (key : String) :
    get? key (names.map fun n => (n, f n)) = if key ∈ names then some (f key) else none := by
  induction names with
  | nil => rfl
  | cons n rest ih =>
    by_cases hn : n = key
    · simp [get?, hn]
    · simp [get?, hn, Ne.symm hn, ih]

/-! ### Groups -/

/-- The values of a key among entries, in order. -/
def valuesOf (key : String) (entries : List (String × α)) : List α :=
  (entries.filter (·.1 = key)).map (·.2)

/-- The keys of entries in the order in which they first come, each with its values. -/
def group (entries : List (String × α)) : Members (List α) :=
  (entries.map (·.1)).eraseDups.map fun key => (key, valuesOf key entries)

theorem valuesOf_cons (key : String) (e : String × α) (entries : List (String × α)) :
    valuesOf key (e :: entries) =
      if e.1 = key then e.2 :: valuesOf key entries else valuesOf key entries := by
  by_cases h : e.1 = key <;> simp [valuesOf, h]

theorem valuesOf_eq_nil_iff {key : String} {entries : List (String × α)} :
    valuesOf key entries = [] ↔ key ∉ entries.map (·.1) := by
  simp only [valuesOf, List.map_eq_nil_iff, List.filter_eq_nil_iff, List.mem_map, decide_eq_true_eq,
    not_exists, not_and]

theorem eraseDups_concat (names : List String) (n : String) :
    (names ++ [n]).eraseDups = if n ∈ names then names.eraseDups else names.eraseDups ++ [n] := by
  rw [List.eraseDups_append]
  by_cases h : n ∈ names <;> simp [List.removeAll, List.eraseDups_cons, h]

theorem nodup_eraseDups (names : List String) : names.eraseDups.Nodup := by
  induction names using List.reverseRecOn with
  | nil => exact List.nodup_nil
  | append_singleton names n ih =>
    rw [eraseDups_concat]
    split
    · exact ih
    · next hnot => exact List.concat_eq_append ▸ ih.concat (mt List.mem_eraseDups.mp hnot)

/-- The entries of groups, one group after the other. -/
def ungroup (groups : Members (List α)) : List (String × α) :=
  groups.flatMap fun (key, as) => as.map (key, ·)

theorem ungroup_cons (key : String) (as : List α) (groups : Members (List α)) :
    ungroup ((key, as) :: groups) = as.map (key, ·) ++ ungroup groups := rfl

theorem mem_keys_of_mem_ungroup {groups : Members (List α)} {key : String}
    (h : key ∈ (ungroup groups).map (·.1)) : key ∈ groups.keys := by
  obtain ⟨e, he, rfl⟩ := List.mem_map.mp h
  obtain ⟨group, hgroup, he⟩ := List.mem_flatMap.mp he
  obtain ⟨a, -, rfl⟩ := List.mem_map.mp he
  exact List.mem_map_of_mem hgroup

theorem valuesOf_append (key : String) (es es' : List (String × α)) :
    valuesOf key (es ++ es') = valuesOf key es ++ valuesOf key es' := by
  simp [valuesOf]

theorem valuesOf_map_key (key k : String) (as : List α) :
    valuesOf key (as.map (k, ·)) = if k = key then as else [] := by
  by_cases h : k = key
  · simp [valuesOf, h, List.filter_map, Function.comp_def]
  · simp [valuesOf, h, List.filter_map, Function.comp_def]

theorem valuesOf_ungroup {groups : Members (List α)} (h : groups.keys.Nodup) (key : String) :
    valuesOf key (ungroup groups) = (groups.get? key).getD [] := by
  induction groups with
  | nil => rfl
  | cons group rest ih =>
    obtain ⟨k, as⟩ := group
    obtain ⟨hnot, hrest⟩ : k ∉ keys rest ∧ (keys rest).Nodup := List.nodup_cons.mp h
    rw [ungroup_cons, valuesOf_append, valuesOf_map_key, ih hrest, get?]
    by_cases hk : k = key
    · subst hk
      simp [get?_eq_none_of_not_mem hnot]
    · simp [hk]

theorem eraseDups_keys_ungroup {groups : Members (List α)} (h : groups.keys.Nodup)
    (hne : ∀ g ∈ groups, g.2 ≠ []) : ((ungroup groups).map (·.1)).eraseDups = groups.keys := by
  induction groups with
  | nil => rfl
  | cons group rest ih =>
    obtain ⟨k, as⟩ := group
    obtain ⟨hnot, hrest⟩ : k ∉ keys rest ∧ (keys rest).Nodup := List.nodup_cons.mp h
    obtain ⟨has, hothers⟩ : as ≠ [] ∧ ∀ g ∈ rest, g.2 ≠ [] := List.forall_mem_cons.mp hne
    obtain ⟨a, as, rfl⟩ := List.exists_cons_of_ne_nil has
    have hkept : ((ungroup rest).map (·.1)).filter (fun b => !b == k) = (ungroup rest).map (·.1) := by
      rw [List.filter_eq_self]
      intro b hb
      have hbk : b ≠ k := fun heq => hnot (heq ▸ mem_keys_of_mem_ungroup hb)
      simpa using hbk
    have hsame : (as.map fun _ => k).filter (fun b => !b == k) = [] := by
      rw [List.filter_eq_nil_iff]
      simp
    have hkeys : (ungroup ((k, a :: as) :: rest)).map (·.1) =
        k :: ((as.map fun _ => k) ++ (ungroup rest).map (·.1)) := by
      simp [ungroup_cons, Function.comp_def]
    rw [hkeys, List.eraseDups_cons, List.filter_append, hsame, hkept, List.nil_append,
      ih hrest hothers]
    rfl

theorem keys_map_key (f : String → α) (names : List String) :
    keys (names.map fun n => (n, f n)) = names :=
  List.map_map.trans (List.map_id names)

theorem keys_group (entries : List (String × α)) :
    (group entries).keys = (entries.map (·.1)).eraseDups :=
  keys_map_key _ _

theorem get?_group (entries : List (String × α)) (key : String) : (group entries).get? key =
    if key ∈ entries.map (·.1) then some (valuesOf key entries) else none := by
  rw [group, get?_map_key]
  simp only [List.mem_eraseDups]

theorem group_congr {entries others : List (String × α)}
    (hkeys : (others.map (·.1)).eraseDups = (entries.map (·.1)).eraseDups)
    (hvalues : ∀ key, valuesOf key others = valuesOf key entries) : group others = group entries := by
  rw [group, hkeys]
  simp only [hvalues]
  rfl

/-- Entries that are put group by group have the same groups. -/
theorem group_ungroup (entries : List (String × α)) :
    group (ungroup (group entries)) = group entries := by
  have hnodup : (group entries).keys.Nodup := keys_group entries ▸ nodup_eraseDups _
  have hne : ∀ g ∈ group entries, g.2 ≠ [] := by
    rintro ⟨key, as⟩ hg hnil
    obtain ⟨n, hn, heq⟩ := List.mem_map.mp hg
    obtain ⟨rfl, rfl⟩ := Prod.mk.inj heq
    exact valuesOf_eq_nil_iff.mp hnil (List.mem_eraseDups.mp hn)
  have hkeys := eraseDups_keys_ungroup hnodup hne
  have hvalues (key : String) : valuesOf key (ungroup (group entries)) = valuesOf key entries := by
    rw [valuesOf_ungroup hnodup, get?_group]
    split
    · rfl
    · next hnot => exact (valuesOf_eq_nil_iff.mpr hnot).symm
  exact group_congr (hkeys.trans (keys_group entries)) hvalues

/-! ### Gathering -/

/-- Put the value of each entry in turn, by what its key has so far. -/
def gather (step : Option β → α → β) (entries : List (String × α)) : Members β :=
  entries.foldl (fun ms e => ms.put e.1 (step (ms.get? e.1) e.2)) []

variable (step : Option β → α → β)

theorem gather_concat (entries : List (String × α)) (e : String × α) :
    gather step (entries ++ [e]) =
      (gather step entries).put e.1 (step ((gather step entries).get? e.1) e.2) := by
  simp [gather]

theorem keys_gather (entries : List (String × α)) :
    (gather step entries).keys = (entries.map (·.1)).eraseDups := by
  induction entries using List.reverseRecOn with
  | nil => rfl
  | append_singleton entries e ih =>
    rw [gather_concat, keys_put, ih, List.map_append, List.map_singleton, eraseDups_concat]
    simp only [List.mem_eraseDups]

theorem nodup_keys_gather (entries : List (String × α)) : (gather step entries).keys.Nodup :=
  keys_gather step entries ▸ nodup_eraseDups _

theorem get?_gather (entries : List (String × α)) (key : String) :
    (gather step entries).get? key =
      (valuesOf key entries).foldl (fun before a => some (step before a)) none := by
  induction entries using List.reverseRecOn with
  | nil => rfl
  | append_singleton entries e ih =>
    rw [gather_concat, valuesOf_append, List.foldl_append, ← ih, valuesOf_cons]
    by_cases h : e.1 = key
    · subst h
      simp [get?_put_self, valuesOf]
    · simp [get?_put_of_ne (Ne.symm h), h, valuesOf]

theorem foldl_some (b : β) (as : List α) :
    as.foldl (fun before a => some (step before a)) (some b) =
      some (as.foldl (fun b a => step (some b) a) b) := by
  induction as generalizing b with
  | nil => rfl
  | cons a rest ih => exact ih (step (some b) a)

/-- What is gathered are the groups, each as what its values give in turn. -/
theorem gather_eq (finish : List α → β)
    (hfinish : ∀ a as, as.foldl (fun b a => step (some b) a) (step none a) = finish (a :: as))
    (entries : List (String × α)) :
    gather step entries = (group entries).map fun (key, as) => (key, finish as) := by
  have hgroup : (group entries).map (fun (key, as) => (key, finish as)) =
      (entries.map (·.1)).eraseDups.map fun key => (key, finish (valuesOf key entries)) :=
    List.map_map
  rw [hgroup]
  apply eq_of_get? (nodup_keys_gather step entries)
  · rw [keys_gather, keys_map_key]
  · intro key
    rw [get?_gather, get?_map_key]
    simp only [List.mem_eraseDups]
    cases hvalues : valuesOf key entries with
    | nil => rw [if_neg (valuesOf_eq_nil_iff.mp hvalues), List.foldl_nil]
    | cons a as =>
      have hmem : key ∈ entries.map (·.1) := by
        by_contra hnot
        rw [valuesOf_eq_nil_iff.mpr hnot] at hvalues
        cases hvalues
      rw [if_pos hmem, List.foldl_cons, foldl_some, hfinish]

end ApiToolbox.Members
