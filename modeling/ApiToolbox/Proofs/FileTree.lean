import ApiToolbox.FileTree
import ApiToolbox.Proofs.Steps

/-! Where a path leads. It leads to what stands at the place, and to the same place without the names that
do not count. -/

namespace ApiToolbox.FileTree

/-- The name is a step to the directory that it is looked up in. -/
def IsIdle (name : String) : Prop := name = "" ∨ name = "."

instance (name : String) : Decidable (IsIdle name) := inferInstanceAs (Decidable (_ ∨ _))

/-- The first names without some that do not count are the second ones. -/
inductive Drops : List String → List String → Prop where
  | nil : Drops [] []
  | keep {ns ms : List String} (n : String) (h : Drops ns ms) : Drops (n :: ns) (n :: ms)
  | drop {n : String} {ns ms : List String} (hn : IsIdle n) (h : Drops ns ms) : Drops (n :: ns) ms

theorem drops_append (target : List String) {ns ms : List String} (h : Drops ns ms) :
    Drops (target ++ ns) (target ++ ms) := by
  induction target with
  | nil => exact h
  | cons n rest ih => exact .keep n ih

theorem drops_filter (names : List String) : Drops names (names.filter fun n => ¬ IsIdle n) := by
  induction names with
  | nil => exact .nil
  | cons n rest ih =>
    by_cases hn : IsIdle n
    · rw [List.filter_cons_of_neg (by simpa using hn)]
      exact .drop hn ih
    · rw [List.filter_cons_of_pos (by simpa using hn)]
      exact .keep n ih

variable {t : FileTree} {r : List String × FileEntry}

/-- One way: if it does not fail, then neither does the way without idle names, whatever links lie on
it. The converse is false, as an idle name behind a file fails. -/
theorem walk_of_drops {jump jump' : List String → List String → Except FileError (List String × FileEntry)}
    (hjump : ∀ start ns ms, Drops ns ms → jump start ns = .ok r → jump' start ms = .ok r)
    {ns ms : List String} (h : Drops ns ms) {place : List String}
    (hwalk : t.walk jump place ns = .ok r) : t.walk jump' place ms = .ok r := by
  induction h generalizing place with
  | nil => exact hwalk
  | drop hn _ ih =>
    rw [walk] at hwalk
    split at hwalk
    · cases hwalk
    · rw [if_pos (by simpa [IsIdle] using hn)] at hwalk
      exact ih hwalk
  | keep n h ih =>
    rw [walk] at hwalk ⊢
    split at hwalk
    · cases hwalk
    · next hplace =>
      rw [if_neg hplace]
      split at hwalk
      · next hidle =>
        rw [if_pos hidle]
        exact ih hwalk
      · next hidle =>
        rw [if_neg hidle]
        split at hwalk
        · next hup =>
          rw [if_pos hup]
          exact ih hwalk
        · next hup =>
          rw [if_neg hup]
          split at hwalk
          · cases hwalk
          · next hlong =>
            rw [if_neg hlong]
            split at hwalk
            · cases hwalk
            · next target hentry =>
              exact hjump _ _ _ (drops_append (names target) h) hwalk
            · next hentry => exact ih hwalk

theorem follow_of_drops {links : Nat} {place ns ms : List String} (h : Drops ns ms)
    (hfollow : t.follow links place ns = .ok r) : t.follow links place ms = .ok r := by
  induction links generalizing place ns ms with
  | zero =>
    rw [follow] at hfollow ⊢
    refine walk_of_drops ?_ h hfollow
    intro start ns ms _ hjump
    cases hjump
  | succ links ih =>
    rw [follow] at hfollow ⊢
    refine walk_of_drops ?_ h hfollow
    intro start ns ms hdrops hjump
    exact ih hdrops hjump

/-! ### What stands where a path leads -/

theorem entry?_of_walk {jump : List String → List String → Except FileError (List String × FileEntry)}
    (hjump : ∀ start names r, jump start names = .ok r → t.entry? r.1 = some r.2)
    {place names : List String} (h : t.walk jump place names = .ok r) : t.entry? r.1 = some r.2 := by
  induction names generalizing place with
  | nil =>
    rw [walk] at h
    split at h
    · next e he =>
      obtain rfl := Except.ok.inj h
      exact he
    · cases h
  | cons name rest ih =>
    rw [walk] at h
    split at h
    · cases h
    split at h
    · exact ih h
    split at h
    · exact ih h
    split at h
    · cases h
    split at h
    · cases h
    · exact hjump _ _ _ h
    · exact ih h

theorem entry?_of_follow {links : Nat} {place names : List String}
    (h : t.follow links place names = .ok r) : t.entry? r.1 = some r.2 := by
  induction links generalizing place names r with
  | zero =>
    refine entry?_of_walk ?_ h
    intro start ns r hjump
    cases hjump
  | succ links ih => exact entry?_of_walk (fun start ns r hjump => ih hjump) h

theorem entry?_of_locate {path : String} (h : t.locate path = .ok r) : t.entry? r.1 = some r.2 := by
  unfold locate at h
  split at h
  · cases h
  split at h
  · cases h
  · exact entry?_of_follow h

theorem mem_entries_of_locate {path : String} (h : t.locate path = .ok r) :
    r = ([], .directory) ∨ r ∈ t.entries := by
  have hentry := entry?_of_locate h
  obtain ⟨place, e⟩ := r
  unfold entry? at hentry
  split at hentry
  · next hroot => exact .inl (Prod.ext hroot (Option.some.inj hentry).symm)
  · obtain ⟨found, hfound, rfl⟩ := Option.map_eq_some_iff.mp hentry
    have hplace : found.1 = place := by simpa using List.find?_some hfound
    exact .inr (hplace ▸ List.mem_of_find?_eq_some hfound)

/-- A text that is read is that of a file. -/
theorem file_of_read {path text : String} (h : t.read path = .ok text) :
    ∃ place content, t.locate path = .ok (place, .file content) ∧
      (Text.Utf8.decode? content).map String.ofList = some text := by
  obtain ⟨content, hcontent, hdecode⟩ := bind_eq_ok_iff.mp h
  unfold readBytes at hcontent
  split at hcontent
  · next place bytes hlocate =>
    obtain rfl := Except.ok.inj hcontent
    refine ⟨place, bytes, hlocate, ?_⟩
    split at hdecode
    · next cs hcs =>
      obtain rfl := Except.ok.inj hdecode
      rw [hcs, Option.map_some]
    · cases hdecode
  · cases hcontent
  · cases hcontent

end ApiToolbox.FileTree
