import ApiToolbox.Proofs.FileTree

/-! Trees of one shape, which differ only in what their files hold. Paths lead to the same places in them, and
overwriting a file keeps the shape. -/

namespace ApiToolbox.FileTree

variable {t t' t'' : FileTree}

/-- The trees have the same directories, files and links. -/
structure SameShape (t t' : FileTree) : Prop where
  current : t.current = t'.current
  entry : ∀ place, t.entry? place = t'.entry? place ∨
    ∃ a b, t.entry? place = some (.file a) ∧ t'.entry? place = some (.file b)

namespace SameShape

theorem refl (t : FileTree) : SameShape t t := ⟨rfl, fun _ => .inl rfl⟩

theorem trans (h : SameShape t t') (h' : SameShape t' t'') : SameShape t t'' where
  current := h.current.trans h'.current
  entry place := by
    rcases h.entry place with heq | ⟨a, b, ha, hb⟩
    · rw [heq]
      exact h'.entry place
    · rcases h'.entry place with heq' | ⟨b', c, hb', hc⟩
      · exact .inr ⟨a, b, ha, heq' ▸ hb⟩
      · exact .inr ⟨a, c, ha, hc⟩

theorem directory_iff (h : SameShape t t') (place : List String) :
    t.entry? place = some .directory ↔ t'.entry? place = some .directory := by
  rcases h.entry place with heq | ⟨a, b, ha, hb⟩
  · rw [heq]
  · simp [ha, hb]

end SameShape

/-! ### Where paths lead -/

/-- Two ways lead to the same, up to what a file at their end holds. -/
inductive LeadsAlike : Except FileError (List String × FileEntry) →
    Except FileError (List String × FileEntry) → Prop where
  | same (found : Except FileError (List String × FileEntry)) : LeadsAlike found found
  | file (place : List String) (a b : List UInt8) : LeadsAlike (.ok (place, .file a)) (.ok (place, .file b))

theorem leadsAlike_walk (h : SameShape t t')
    {jump jump' : List String → List String → Except FileError (List String × FileEntry)}
    (hjump : ∀ start names, LeadsAlike (jump start names) (jump' start names))
    (place names : List String) : LeadsAlike (t.walk jump place names) (t'.walk jump' place names) := by
  induction names generalizing place with
  | nil =>
    rw [walk, walk]
    rcases h.entry place with heq | ⟨a, b, ha, hb⟩
    · rw [heq]
      exact .same _
    · rw [ha, hb]
      exact .file place a b
  | cons name rest ih =>
    rw [walk, walk]
    simp only [ne_eq, h.directory_iff place]
    split_ifs
    · exact ih place
    · exact ih place.dropLast
    · exact .same _
    · rcases h.entry (place ++ [name]) with heq | ⟨a, b, ha, hb⟩
      · rw [heq]
        split
        · exact .same _
        · exact hjump _ _
        · exact ih _
      · rw [ha, hb]
        exact ih _
    · exact .same _

theorem leadsAlike_follow (h : SameShape t t') (links : Nat) (place names : List String) :
    LeadsAlike (t.follow links place names) (t'.follow links place names) := by
  induction links generalizing place names with
  | zero => exact leadsAlike_walk h (fun _ _ => .same _) place names
  | succ links ih => exact leadsAlike_walk h ih place names

theorem leadsAlike_locate (h : SameShape t t') (path : String) :
    LeadsAlike (t.locate path) (t'.locate path) := by
  rw [locate, locate, h.current]
  split_ifs
  · exact .same _
  · exact .same _
  · exact leadsAlike_follow h _ _ _
  · exact leadsAlike_follow h _ _ _

theorem canonical_congr (h : SameShape t t') (path : String) : t.canonical path = t'.canonical path := by
  have halike := leadsAlike_locate h path
  rw [canonical, canonical]
  generalize t.locate path = found at halike
  generalize t'.locate path = found' at halike
  cases halike with
  | same found => rfl
  | file place a b => rfl

/-! ### Overwriting -/

theorem entry?_set {place : List String} (hplace : place ≠ []) (t : FileTree) (e : FileEntry)
    (other : List String) :
    FileTree.entry? (t.set place e) other = if other = place then some e else t.entry? other := by
  by_cases hother : other = place
  · simp [set, entry?, hother, hplace]
  by_cases hroot : other = []
  · simp [hroot, entry?, Ne.symm hplace]
  have hothers : (fun x : List String × FileEntry =>
      decide (decide (x.1 ≠ place) = true ∧ decide (x.1 = other) = true)) =
      fun x => decide (x.1 = other) := by
    funext x
    by_cases hx : x.1 = other
    · simp [hx, hother]
    · simp [hx]
  rw [if_neg hother, entry?, entry?, if_neg hroot, if_neg hroot, set,
    List.find?_cons_of_neg (by simpa using Ne.symm hother), List.find?_filter, hothers]

/-- Where a path leads to a file, writing there replaces what the file holds and nothing else. -/
theorem sameShape_write {path : String} {place : List String} {old : List UInt8}
    (h : t.locate path = .ok (place, .file old)) (content : List UInt8) :
    SameShape t (t.write path content) := by
  have hold : t.entry? place = some (.file old) := entry?_of_locate h
  have hplace : place ≠ [] := by
    rintro rfl
    simp [ entry?] at hold
  have hwrite : t.write path content = t.set place (.file content) := by
    rw [write, h]
  rw [hwrite]
  refine ⟨rfl, fun other => ?_⟩
  rw [entry?_set hplace]
  by_cases hother : other = place
  · exact .inr ⟨old, content, hother ▸ hold, if_pos hother⟩
  · exact .inl (if_neg hother).symm

end ApiToolbox.FileTree
