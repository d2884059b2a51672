import ApiToolbox.Proofs.ToolName
import ApiToolbox.Registry
import Mathlib.Data.Finset.Card

/-! The rule of naming. An operation has the suggested name, else that name behind its method, else this
with the least number from two on, whichever is not in use first. The search for the number needs no bound:
each number that is tried in vain is that of a name in use. -/

namespace ApiToolbox.ToolName

/-- The suggested name behind the method. -/
def withMethod (m : Method) (path : String) : String := m.key ++ "_" ++ root m path

/-- The names that the rule gives to an operation beside names in use. -/
inductive IsNext (used : List String) (m : Method) (path : String) : String → Prop where
  | root (hfree : root m path ∉ used) : IsNext used m path (root m path)
  | withMethod (hroot : ToolName.root m path ∈ used) (hfree : withMethod m path ∉ used) :
      IsNext used m path (withMethod m path)
  | numbered {n : Nat} (hroot : ToolName.root m path ∈ used)
      (hmethod : ToolName.withMethod m path ∈ used) (hn : 2 ≤ n)
      (hfree : numbered (ToolName.withMethod m path) n ∉ used)
      (hleast : ∀ k, 2 ≤ k → k < n → ToolName.numbered (ToolName.withMethod m path) k ∈ used) :
      IsNext used m path (numbered (ToolName.withMethod m path) n)

/-- The search for a number as it goes on without a bound: from a number on, those that are tried, and the
one that it ends with. -/
inductive Search (used : List String) (stem : String) : Nat → List Nat → Nat → Prop where
  | free {n : Nat} (h : numbered stem n ∉ used) : Search used stem n [n] n
  | next {n last : Nat} {tried : List Nat} (h : numbered stem n ∈ used)
      (hrest : Search used stem (n + 1) tried last) : Search used stem n (n :: tried) last

variable {used : List String} {m : Method} {path : String}

theorem search_of_least {stem : String} {n k : Nat} (hfree : numbered stem (n + k) ∉ used)
    (hused : ∀ j < k, numbered stem (n + j) ∈ used) :
    Search used stem n (List.range' n (k + 1)) (n + k) := by
  induction k generalizing n with
  | zero => exact .free hfree
  | succ k ih =>
    have hshift (j : Nat) : n + 1 + j = n + (j + 1) := by omega
    have hrest : Search used stem (n + 1) (List.range' (n + 1) (k + 1)) (n + 1 + k) := by
      apply ih
      · rwa [hshift]
      · intro j hj
        rw [hshift]
        exact hused (j + 1) (by omega)
    rw [hshift] at hrest
    rw [List.range'_succ]
    exact .next (hused 0 (by omega)) hrest

/-- All names that come into question are different, as each is longer than those it is made of. -/
theorem nodup_candidates (m : Method) (path : String) (n k : Nat) :
    (root m path :: withMethod m path ::
      (List.range' n k).map (numbered (withMethod m path))).Nodup := by
  have hmethod : (root m path).length < (withMethod m path).length := by
    simp only [withMethod, String.length_append]
    have hunderscore : "_".length = 1 := by decide
    omega
  have hnumbered (i : Nat) :
      (withMethod m path).length < (numbered (withMethod m path) i).length := by
    simp only [numbered, String.length_append]
    have hunderscore : "_".length = 1 := by decide
    omega
  have hnot {name : String} (h : name.length ≤ (withMethod m path).length) :
      name ∉ (List.range' n k).map (numbered (withMethod m path)) := by
    intro hmem
    obtain ⟨i, -, rfl⟩ := List.mem_map.mp hmem
    exact (hnumbered i).not_ge h
  refine List.nodup_cons.mpr ⟨fun hmem => ?_, List.nodup_cons.mpr ⟨hnot le_rfl, ?_⟩⟩
  · rcases List.mem_cons.mp hmem with heq | hmem
    · exact hmethod.ne (congrArg String.length heq)
    · exact hnot hmethod.le hmem
  · exact List.Nodup.map (numbered_injective _) List.nodup_range'

/-- The first number that is free is not greater than the number of names in use. -/
theorem add_le_card_of_used {k : Nat} (hroot : root m path ∈ used) (hmethod : withMethod m path ∈ used)
    (hused : ∀ j < k, numbered (withMethod m path) (2 + j) ∈ used) :
    2 + k ≤ used.toFinset.card := by
  set candidates := root m path :: withMethod m path ::
    (List.range' 2 k).map (numbered (withMethod m path)) with hcandidates
  have hsub : candidates.toFinset ⊆ used.toFinset := by
    intro name hname
    rw [List.mem_toFinset] at hname ⊢
    rcases List.mem_cons.mp hname with rfl | hname
    · exact hroot
    · rcases List.mem_cons.mp hname with rfl | hname
      · exact hmethod
      · obtain ⟨i, hi, rfl⟩ := List.mem_map.mp hname
        obtain ⟨j, hj, rfl⟩ : ∃ j < k, 2 + j = i := by
          have hrange := List.mem_range'_1.mp hi
          exact ⟨i - 2, by omega, by omega⟩
        exact hused j hj
  calc 2 + k = candidates.length := by simp [hcandidates]; omega
    _ = candidates.toFinset.card :=
        (List.toFinset_card_of_nodup (nodup_candidates m path 2 k)).symm
    _ ≤ used.toFinset.card := Finset.card_le_card hsub

theorem assign_eq (used : List String) (m : Method) (path : String) : assign used m path =
    if root m path ∉ used then root m path
    else if withMethod m path ∉ used then withMethod m path
    else firstFree used (withMethod m path) used.length 2 := rfl

/-- Where the first two names are taken, the least number that is free is found. -/
theorem exists_search (hroot : root m path ∈ used) (hmethod : withMethod m path ∈ used) :
    ∃ k, assign used m path = numbered (withMethod m path) (2 + k) ∧
      numbered (withMethod m path) (2 + k) ∉ used ∧
      ∀ j < k, numbered (withMethod m path) (2 + j) ∈ used := by
  obtain ⟨k, -, heq, hfree, hused⟩ :=
    firstFree_eq (exists_numbered_not_mem used (withMethod m path) 2)
  refine ⟨k, ?_, hfree, hused⟩
  rw [assign_eq, if_neg (not_not_intro hroot), if_neg (not_not_intro hmethod), heq]

theorem isNext_assign (used : List String) (m : Method) (path : String) :
    IsNext used m path (assign used m path) := by
  by_cases hroot : root m path ∈ used
  · by_cases hmethod : withMethod m path ∈ used
    · obtain ⟨k, heq, hfree, hused⟩ := exists_search hroot hmethod
      rw [heq]
      refine .numbered hroot hmethod (by omega) hfree fun i hi hlt => ?_
      have hi' := hused (i - 2) (by omega)
      rwa [show 2 + (i - 2) = i by omega] at hi'
    · rw [assign_eq, if_neg (not_not_intro hroot), if_pos hmethod]
      exact .withMethod hroot hmethod
  · rw [assign_eq, if_pos hroot]
    exact .root hroot

/-- The rule gives one name. -/
theorem IsNext.unique {a b : String} (ha : IsNext used m path a) (hb : IsNext used m path b) :
    a = b := by
  cases ha with
  | root hfree =>
    cases hb with
    | root _ => rfl
    | withMethod hroot _ => exact absurd hroot hfree
    | numbered hroot _ _ _ _ => exact absurd hroot hfree
  | withMethod hroot hfree =>
    cases hb with
    | root hfree' => exact absurd hroot hfree'
    | withMethod _ _ => rfl
    | numbered _ hmethod _ _ _ => exact absurd hmethod hfree
  | @numbered n hroot hmethod hn hfree hleast =>
    cases hb with
    | root hfree' => exact absurd hroot hfree'
    | withMethod _ hfree' => exact absurd hmethod hfree'
    | @numbered n' _ _ hn' hfree' hleast' =>
      rcases lt_trichotomy n n' with hlt | rfl | hlt
      · exact absurd (hleast' n hn hlt) hfree
      · rfl
      · exact absurd (hleast n' hn' hlt) hfree'

/-- The assigned name is exactly the one of the rule, and was not in use. Where a number is needed, the
search without a bound ends with it, after fewer tries than there are names in use and with no number
greater than these are many. Naming goes on with the name added to those in use. -/
theorem assign_follows_rule (used : List String) (m : Method) (path : String) :
    (∀ name, IsNext used m path name ↔ name = assign used m path) ∧
      assign used m path ∉ used ∧
      (root m path ∈ used → withMethod m path ∈ used → ∃ tried n,
        Search used (withMethod m path) 2 tried n ∧
          assign used m path = numbered (withMethod m path) n ∧
          tried.length < used.toFinset.card ∧ ∀ i ∈ tried, i ≤ used.toFinset.card) ∧
      ∀ (doc : PathDocument) (decl : OperationDecl) (rest : List (PathDocument × OperationDecl)),
        doc.path = path → decl.method = m →
        ∃ after, after.toFinset = insert (assign used m path) used.toFinset ∧
          Registry.name used ((doc, decl) :: rest) =
            Registry.operation (assign used m path) doc decl :: Registry.name after rest := by
  have hnext := isNext_assign used m path
  refine ⟨fun name => ⟨fun h => h.unique hnext, fun h => h ▸ hnext⟩, assign_not_mem used m path, ?_, ?_⟩
  · intro hroot hmethod
    obtain ⟨k, heq, hfree, hused⟩ := exists_search hroot hmethod
    have hcard := add_le_card_of_used hroot hmethod hused
    refine ⟨_, _, search_of_least hfree hused, heq, ?_, fun i hi => ?_⟩
    · rw [List.length_range']
      omega
    · have hrange := List.mem_range'_1.mp hi
      omega
  · rintro doc decl rest rfl rfl
    exact ⟨assign used decl.method doc.path :: used, List.toFinset_cons, rfl⟩

/-- Names with numbers that leave a gap, and a name that is in use twice. -/
example : assign ["items", "post_items", "post_items_2", "items", "post_items_4"] .post "/items/" =
    "post_items_3" := by
  decide +kernel

end ApiToolbox.ToolName
