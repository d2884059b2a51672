import ApiToolbox.Proofs.Text.Pieces
import ApiToolbox.ToolName
import Mathlib.Data.List.Nodup
import Mathlib.Data.List.Perm.Subperm
import Mathlib.Data.List.TakeWhile

/-! Tool names as words. The suggested name of a path is its runs of letters and digits with single
underscores between them, and the name that is assigned is one of words that is not in use. -/

namespace ApiToolbox.ToolName

/-- The longest runs of letters and digits, in order. -/
def words (cs : List Char) : List (List Char) :=
  (cs.splitOnP fun c => !c.isAlphanum).filter (· ≠ [])

/-- Words with single underscores between them. -/
def joined (ws : List (List Char)) : List Char := ['_'].intercalate ws

/-- A letter or digit as it is, any other character as an underscore. -/
def mark (c : Char) : Char := if c.isAlphanum then c else '_'

theorem mark_of_isAlphanum {c : Char} (h : c.isAlphanum = true) : mark c = c := by
  simp [mark, h]

theorem mark_of_not_isAlphanum {c : Char} (h : c.isAlphanum = false) : mark c = '_' := by
  simp [mark, h]

theorem ne_underscore {c : Char} (h : c.isAlphanum = true) : c ≠ '_' := by
  rintro rfl
  exact absurd h (by decide)

/-! ### Words -/

@[simp] theorem words_nil : words [] = [] := rfl

theorem words_append_sep {c : Char} (h : c.isAlphanum = false) (x y : List Char) :
    words (x ++ c :: y) = words x ++ words y := by
  rw [words, List.splitOnP_append_cons x y (by simp [h]), List.filter_append]
  rfl

theorem words_cons_sep {c : Char} (h : c.isAlphanum = false) (r : List Char) :
    words (c :: r) = words r := by
  simpa using words_append_sep h [] r

theorem words_of_forall {w : List Char} (hne : w ≠ []) (h : ∀ c ∈ w, c.isAlphanum = true) :
    words w = [w] := by
  rw [words, List.splitOnP_eq_singleton fun c hc => by simp [h c hc]]
  simp [hne]

/-- A letter or digit in front of another one belongs to its word. -/
theorem words_cons_cons {c d : Char} (hc : c.isAlphanum = true) (hd : d.isAlphanum = true)
    (r : List Char) :
    ∃ w ws, words (d :: r) = (d :: w) :: ws ∧ words (c :: d :: r) = (c :: d :: w) :: ws := by
  obtain ⟨w, ws, hw⟩ := List.exists_cons_of_ne_nil (List.splitOnP_ne_nil (fun c => !c.isAlphanum) r)
  refine ⟨w, ws.filter (· ≠ []), ?_, ?_⟩ <;>
    simp [words, List.splitOnP_cons_eq_if_modifyHead, hc, hd, hw]

/-- Every piece between separators holds none of them. -/
theorem forall_of_mem_splitOnP {p : Char → Bool} {cs w : List Char} (hw : w ∈ cs.splitOnP p) :
    ∀ c ∈ w, p c = false := by
  induction cs generalizing w with
  | nil => simp_all [List.splitOnP_nil]
  | cons d r ih =>
    obtain ⟨v, vs, hv⟩ := List.exists_cons_of_ne_nil (List.splitOnP_ne_nil p r)
    rw [List.splitOnP_cons_eq_if_modifyHead] at hw
    by_cases hd : p d
    · rcases List.mem_cons.mp (by simpa [hd] using hw) with rfl | hw
      · simp
      · exact ih hw
    · rcases List.mem_cons.mp (by simpa [hd, hv] using hw) with rfl | hw
      · have h := ih (w := v) (by simp [hv])
        simpa [hd] using h
      · exact ih (by simp [hv, hw])

theorem mem_words {cs w : List Char} (hw : w ∈ words cs) :
    w ≠ [] ∧ ∀ c ∈ w, c.isAlphanum = true := by
  obtain ⟨hmem, hne⟩ := List.mem_filter.mp hw
  exact ⟨by simpa using hne, fun c hc => by simpa using forall_of_mem_splitOnP hmem c hc⟩

theorem joined_cons (w : List Char) {ws : List (List Char)} (h : ws ≠ []) :
    joined (w :: ws) = w ++ '_' :: joined ws := by
  simp [joined, List.intercalate_cons_of_ne_nil h]

@[simp] theorem joined_singleton (w : List Char) : joined [w] = w := List.intercalate_singleton

@[simp] theorem joined_nil : joined [] = [] := List.intercalate_nil

theorem joined_append {us ws : List (List Char)} (hu : us ≠ []) (hw : ws ≠ []) :
    joined (us ++ ws) = joined us ++ '_' :: joined ws := by
  induction us with
  | nil => exact absurd rfl hu
  | cons u us ih =>
    by_cases hus : us = []
    · simp [hus, joined_cons u hw]
    · rw [List.cons_append, joined_cons u (by simp [hus]), ih hus, joined_cons u hus]
      simp

/-! ### The suggested name -/

theorem collapse_cons {c : Char} (h : c ≠ '_') (r : List Char) :
    collapse (c :: r) = c :: collapse r := by
  rw [collapse]
  split <;> simp_all

theorem collapse_underscore_of_head {r rest : List Char} (h : collapse r = '_' :: rest) :
    collapse ('_' :: r) = '_' :: rest := by
  simp [collapse, h]

theorem collapse_underscore {r : List Char} (h : (collapse r).head? ≠ some '_') :
    collapse ('_' :: r) = '_' :: collapse r := by
  rw [collapse]
  split
  · simp_all
  · rfl

/-- After collapsing, the words stand with single underscores between them, behind an underscore if
the text begins with a separator, and perhaps in front of others. -/
theorem collapse_map_mark (cs : List Char) :
    ∃ tail, (∀ c ∈ tail, c = '_') ∧ collapse (cs.map mark) =
      (if cs.head?.any (!·.isAlphanum) then ['_'] else []) ++ joined (words cs) ++ tail := by
  induction cs with
  | nil => exact ⟨[], by simp [collapse]⟩
  | cons c r ih =>
    obtain ⟨tail, htail, heq⟩ := ih
    rw [List.map_cons]
    cases hc : c.isAlphanum with
    | true =>
      rw [mark_of_isAlphanum hc, collapse_cons (ne_underscore hc), heq]
      rcases r with _ | ⟨d, r⟩
      · exact ⟨tail, htail, by simp [words_of_forall (w := [c]), hc]⟩
      · cases hd : d.isAlphanum with
        | true =>
          obtain ⟨w, ws, hw, hw'⟩ := words_cons_cons hc hd r
          refine ⟨tail, htail, ?_⟩
          rw [hw, hw']
          by_cases hws : ws = []
          · simp [hws, hc, hd]
          · simp [joined_cons _ hws, hc, hd]
        | false =>
          have hword : words (c :: d :: r) = [c] :: words r := by
            rw [show c :: d :: r = [c] ++ d :: r from rfl, words_append_sep hd,
              words_of_forall (by simp) (by simp [hc])]
            rfl
          rw [hword, words_cons_sep hd]
          by_cases hws : words r = []
          · exact ⟨'_' :: tail, by simpa using htail, by simp [hws, hc, hd]⟩
          · exact ⟨tail, htail, by simp [joined_cons _ hws, hc, hd]⟩
    | false =>
      refine ⟨tail, htail, ?_⟩
      rw [mark_of_not_isAlphanum hc, words_cons_sep hc]
      rcases r with _ | ⟨d, r⟩
      · simp_all [collapse]
      · cases hd : d.isAlphanum with
        | false =>
          rw [collapse_underscore_of_head (by simpa [hd] using heq)]
          simp [hc]
        | true =>
          have hhead : (collapse ((d :: r).map mark)).head? ≠ some '_' := by
            rw [List.map_cons, mark_of_isAlphanum hd, collapse_cons (ne_underscore hd)]
            simpa using ne_underscore hd
          rw [collapse_underscore hhead, heq]
          simp [hc, hd]

theorem trimUnderscores_append {front back : List Char} (hfront : ∀ c ∈ front, c = '_')
    (hback : ∀ c ∈ back, c = '_') {cs : List Char} (hhead : cs.head? ≠ some '_')
    (hlast : cs.getLast? ≠ some '_') : trimUnderscores (front ++ cs ++ back) = cs := by
  apply Text.dropEndWhile_dropWhile_append (by simpa using hfront) (by simpa using hback)
  · rintro c hc
    exact decide_eq_false fun h => hhead (h ▸ hc)
  · rintro c hc
    exact decide_eq_false fun h => hlast (h ▸ hc)

theorem head?_joined {ws : List (List Char)} (h : ∀ w ∈ ws, w ≠ [] ∧ ∀ c ∈ w, c.isAlphanum = true) :
    (joined ws).head? ≠ some '_' := by
  rcases ws with _ | ⟨w, ws⟩
  · simp
  · obtain ⟨hne, hall⟩ := h w (by simp)
    obtain ⟨c, r, rfl⟩ := List.exists_cons_of_ne_nil hne
    have hc := ne_underscore (hall c (by simp))
    by_cases hws : ws = [] <;> simp [hws, joined_cons, hc]

theorem getLast?_joined {ws : List (List Char)}
    (h : ∀ w ∈ ws, w ≠ [] ∧ ∀ c ∈ w, c.isAlphanum = true) : (joined ws).getLast? ≠ some '_' := by
  induction ws with
  | nil => simp
  | cons w ws ih =>
    by_cases hws : ws = []
    · obtain ⟨-, hall⟩ := h w (by simp)
      intro hlast
      exact ne_underscore (hall '_' (List.mem_of_getLast? (by simpa [hws] using hlast))) rfl
    · have hne : joined ws ≠ [] := by
        obtain ⟨v, vs, rfl⟩ := List.exists_cons_of_ne_nil hws
        have hv := (h v (by simp)).1
        by_cases hvs : vs = [] <;> simp [hvs, joined_cons, hv]
      rw [joined_cons w hws, List.getLast?_append_of_ne_nil _ (by simp), List.getLast?_cons_of_ne_nil hne]
      exact ih fun v hv => h v (by simp [hv])

/-- With underscores for all that is no letter or digit, with single ones for runs of them and none at the
ends, a text is its words. -/
theorem trimUnderscores_collapse (cs : List Char) :
    trimUnderscores (collapse (cs.map mark)) = joined (words cs) := by
  obtain ⟨tail, htail, heq⟩ := collapse_map_mark cs
  have hall := fun w (hw : w ∈ words cs) => mem_words hw
  have hfront : ∀ c ∈ (if cs.head?.any (!·.isAlphanum) then ['_'] else []), c = '_' := by
    split <;> simp
  rw [heq]
  exact trimUnderscores_append hfront htail (head?_joined hall) (getLast?_joined hall)

/-- The suggested name is the words of the path, braces left out. -/
theorem base_toList (path : String) :
    (base path).toList = joined (words (path.toList.filter fun c => !(c = '{' || c = '}'))) := by
  rw [← trimUnderscores_collapse, base, String.toList_ofList]
  rfl

/-! ### Names of words -/

/-- Words of letters and digits with single underscores between them. -/
def IsWords (name : String) : Prop :=
  ∃ ws : List (List Char), ws ≠ [] ∧ (∀ w ∈ ws, w ≠ [] ∧ ∀ c ∈ w, c.isAlphanum = true) ∧
    name.toList = joined ws

theorem IsWords.append {a b : String} (ha : IsWords a) (hb : IsWords b) :
    IsWords (a ++ "_" ++ b) := by
  obtain ⟨us, hus, hu, ha⟩ := ha
  obtain ⟨ws, hws, hw, hb⟩ := hb
  refine ⟨us ++ ws, by simp [hus], ?_, by simp [ha, hb, joined_append hus hws]⟩
  intro w h
  exact (List.mem_append.mp h).elim (hu w) (hw w)

theorem mem_joined {ws : List (List Char)} {c : Char} (h : c ∈ joined ws) :
    c = '_' ∨ ∃ w ∈ ws, c ∈ w := by
  induction ws with
  | nil => simp at h
  | cons w ws ih =>
    by_cases hws : ws = []
    · exact Or.inr ⟨w, by simp, by simpa [hws] using h⟩
    · rw [joined_cons w hws, List.mem_append, List.mem_cons] at h
      rcases h with h | h | h
      · exact Or.inr ⟨w, by simp, h⟩
      · exact Or.inl h
      · exact (ih h).imp_right fun ⟨v, hv, hc⟩ => ⟨v, by simp [hv], hc⟩

theorem IsWords.ascii {name : String} (h : IsWords name) : ∀ c ∈ name.toList, c.toNat < 128 := by
  obtain ⟨ws, -, hws, heq⟩ := h
  intro c hc
  rcases mem_joined (heq ▸ hc) with rfl | ⟨w, hw, hcw⟩
  · decide
  · exact Text.toNat_lt_of_isAlphanum ((hws w hw).2 c hcw)

theorem isWords_of_forall {s : String} (hne : s ≠ "") (h : ∀ c ∈ s.toList, c.isAlphanum = true) :
    IsWords s :=
  ⟨[s.toList], by simp, by simpa [hne] using h, by simp⟩

theorem isWords_key (m : Method) : IsWords m.key := by
  cases m <;> exact isWords_of_forall (by decide) (List.all_eq_true.mp (by decide))

theorem isWords_toString (n : Nat) : IsWords (toString n) := by
  rw [Nat.toString_eq_repr]
  refine isWords_of_forall Nat.repr_ne_empty fun c hc => ?_
  rw [Nat.toList_repr] at hc
  simp [Char.isAlphanum, Nat.isDigit_of_mem_toDigits (by omega) (by omega) hc]

theorem isWords_base {path : String} (h : base path ≠ "") : IsWords (base path) := by
  refine ⟨_, fun hnil => h ?_, fun w hw => mem_words hw, base_toList path⟩
  rw [← String.toList_inj, base_toList, hnil]
  rfl

theorem isWords_root (m : Method) (path : String) : IsWords (root m path) := by
  unfold root
  split
  · have hroot : IsWords "root" := isWords_of_forall (by decide) (List.all_eq_true.mp (by decide))
    simpa [String.append_assoc] using (isWords_key m).append hroot
  · exact isWords_base ‹_›

theorem IsWords.numbered {stem : String} (h : IsWords stem) (n : Nat) : IsWords (numbered stem n) :=
  h.append (isWords_toString n)

/-! ### Names that are not in use -/

theorem numbered_injective (stem : String) : Function.Injective (numbered stem) := by
  intro a b h
  have hrepr : Nat.toDigits 10 a = Nat.toDigits 10 b := by
    have := congrArg String.toList h
    simpa [numbered, Nat.toString_eq_repr] using this
  calc a = Nat.ofDigitChars 10 (Nat.toDigits 10 a) 0 := by simp
    _ = b := by rw [hrepr]; simp

/-- One more number than there are names in use gives a name that is not among them. -/
theorem exists_numbered_not_mem (used : List String) (stem : String) (n : Nat) :
    ∃ k ≤ used.length, numbered stem (n + k) ∉ used := by
  by_contra h
  push Not at h
  have hsub : (List.range (used.length + 1)).map (fun k => numbered stem (n + k)) ⊆ used := by
    intro s hs
    obtain ⟨k, hk, rfl⟩ := List.mem_map.mp hs
    exact h k (by simpa [Nat.lt_succ_iff] using hk)
  have hnodup : ((List.range (used.length + 1)).map fun k => numbered stem (n + k)).Nodup :=
    List.nodup_range.map fun a b hab => by simpa using numbered_injective stem hab
  have hlen := (List.subperm_of_subset hnodup hsub).length_le
  rw [List.length_map, List.length_range] at hlen
  omega

/-- The search stops at the first number whose name is not in use. -/
theorem firstFree_eq {used : List String} {stem : String} {tries n : Nat}
    (h : ∃ k ≤ tries, numbered stem (n + k) ∉ used) :
    ∃ k ≤ tries, firstFree used stem tries n = numbered stem (n + k) ∧
      numbered stem (n + k) ∉ used ∧ ∀ j < k, numbered stem (n + j) ∈ used := by
  induction tries generalizing n with
  | zero =>
    obtain ⟨k, hk, hfree⟩ := h
    obtain rfl : k = 0 := by omega
    exact ⟨0, by omega, rfl, hfree, by omega⟩
  | succ tries ih =>
    rw [firstFree]
    by_cases hn : numbered stem n ∈ used
    · have hnext : ∃ k ≤ tries, numbered stem (n + 1 + k) ∉ used := by
        obtain ⟨k, hk, hfree⟩ := h
        cases k with
        | zero => exact absurd hn hfree
        | succ k => exact ⟨k, by omega, by rwa [show n + 1 + k = n + (k + 1) by omega]⟩
      obtain ⟨k, hk, heq, hfree, hused⟩ := ih hnext
      have hshift : n + (k + 1) = n + 1 + k := by omega
      refine ⟨k + 1, by omega, by rw [if_pos hn, heq, hshift], by rwa [hshift], ?_⟩
      rintro (_ | j) hj
      · exact hn
      · rw [show n + (j + 1) = n + 1 + j by omega]
        exact hused j (by omega)
    · exact ⟨0, by omega, by rw [if_neg hn]; rfl, hn, by omega⟩

/-- The assigned name is the root, the root behind the method, or that with the first free number. -/
theorem assign_cases (used : List String) (m : Method) (path : String) :
    assign used m path = root m path ∧ root m path ∉ used ∨
    assign used m path = m.key ++ "_" ++ root m path ∧ m.key ++ "_" ++ root m path ∉ used ∨
    ∃ n, assign used m path = numbered (m.key ++ "_" ++ root m path) n ∧
      numbered (m.key ++ "_" ++ root m path) n ∉ used := by
  unfold assign
  by_cases hfirst : root m path ∈ used
  · by_cases hsecond : m.key ++ "_" ++ root m path ∈ used
    · obtain ⟨k, -, heq, hfree, -⟩ := firstFree_eq (exists_numbered_not_mem used _ 2)
      exact Or.inr (Or.inr ⟨2 + k, by simp [hfirst, hsecond, heq], hfree⟩)
    · exact Or.inr (Or.inl ⟨by simp [hfirst, hsecond], hsecond⟩)
  · exact Or.inl ⟨by simp [hfirst], hfirst⟩

theorem assign_not_mem (used : List String) (m : Method) (path : String) :
    assign used m path ∉ used := by
  rcases assign_cases used m path with ⟨h, hfree⟩ | ⟨h, hfree⟩ | ⟨n, h, hfree⟩ <;> rwa [h]

theorem isWords_assign (used : List String) (m : Method) (path : String) :
    IsWords (assign used m path) := by
  have hsecond := (isWords_key m).append (isWords_root m path)
  rcases assign_cases used m path with ⟨h, -⟩ | ⟨h, -⟩ | ⟨n, h, -⟩
  · rw [h]; exact isWords_root m path
  · rw [h]; exact hsecond
  · rw [h]; exact hsecond.numbered n

end ApiToolbox.ToolName
