import ApiToolbox.Proofs.Text.Pieces
import ApiToolbox.Reference
import Mathlib.Data.List.NodupEquivFin
import Mathlib.Data.Nat.Digits.Lemmas

/-! How long the paths of documents become. References put path behind path, and names that do not count
can make a path longer without leading anywhere else. But such names stand in references, and the
directory of a document ends in a name that counts. So the path is no longer than some stretch for each
name that does. -/

namespace ApiToolbox

namespace Text

/-- A text as a number: its characters are digits, none of them zero. -/
def code (cs : List Char) : Nat := Nat.ofDigits (2 ^ 21) (cs.map fun c => c.toNat + 1)

theorem digit_lt (cs : List Char) : ∀ n ∈ cs.map fun c => c.toNat + 1, n < 2 ^ 21 := by
  intro n hn
  obtain ⟨c, -, rfl⟩ := List.mem_map.mp hn
  have hbound : c.toNat < 0x110000 := by
    rcases c.valid with h | ⟨-, h⟩
    · exact Nat.lt_trans h (by decide)
    · exact h
  omega

theorem code_injective : Function.Injective code := by
  intro as bs h
  have hdigits (cs : List Char) : (2 ^ 21).digits (code cs) = cs.map fun c => c.toNat + 1 := by
    refine Nat.digits_ofDigits _ (by decide) _ (digit_lt cs) fun hne => ?_
    simp [List.getLast_map]
  have hmap := (hdigits as).symm.trans ((congrArg _ h).trans (hdigits bs))
  refine List.map_injective_iff.mpr ?_ hmap
  intro c d hcd
  exact Char.toNat_inj.mp (by simpa using hcd)

theorem code_lt {cs : List Char} {n : Nat} (h : cs.length ≤ n) : code cs < 2 ^ (21 * n) := by
  have hlt : code cs < (2 ^ 21) ^ cs.length := by
    have hdigits := Nat.ofDigits_lt_base_pow_length (by decide) (digit_lt cs)
    rwa [List.length_map] at hdigits
  calc code cs < 2 ^ (21 * cs.length) := by rwa [pow_mul]
    _ ≤ 2 ^ (21 * n) := Nat.pow_le_pow_right (by decide) (by omega)

/-- There are not more texts than numbers that they can be. -/
theorem length_le_of_nodup {texts : List String} (h : texts.Nodup) {n : Nat}
    (hlength : ∀ s ∈ texts, s.length ≤ n) : texts.length ≤ 2 ^ (21 * n) := by
  have hinjective : Function.Injective fun s : String => code s.toList :=
    code_injective.comp fun _ _ => String.toList_inj.mp
  have hbelow : texts.map (fun s => code s.toList) ⊆ List.range (2 ^ (21 * n)) := by
    intro k hk
    obtain ⟨s, hs, rfl⟩ := List.mem_map.mp hk
    exact List.mem_range.mpr (code_lt (String.length_toList ▸ hlength s hs))
  simpa using ((h.map hinjective).subperm hbelow).length_le

end Text

namespace DocPath

/-- The name counts in the key of a document. -/
def counts (name : List Char) : Bool := name ≠ [] && name ≠ ['.']

/-- How many names count that have a slash behind them. -/
def completed (cs : List Char) : Nat := (Text.splitOn '/' cs).dropLast.countP counts

/-- The path up to any place is no longer than a stretch for each name that counts, and one more. -/
def Paced (stride : Nat) (cs : List Char) : Prop :=
  ∀ q, q <+: cs → q.length ≤ (completed q + 1) * stride

/-- The last name counts. -/
def EndsInName (cs : List Char) : Prop :=
  ∃ front name, cs = front ++ name ∧ '/' ∉ name ∧ counts name ∧ (front = [] ∨ ∃ a, front = a ++ ['/'])

theorem completed_append_cons (as bs : List Char) :
    completed (as ++ '/' :: bs) = (Text.splitOn '/' as).countP counts + completed bs := by
  rw [completed, Text.splitOn_append_cons, List.dropLast_append_of_ne_nil (Text.splitOn_ne_nil _ bs),
    List.countP_append, completed]

theorem EndsInName.countP_splitOn {cs : List Char} (h : EndsInName cs) :
    (Text.splitOn '/' cs).countP counts = completed cs + 1 := by
  obtain ⟨front, name, rfl, hname, hcounts, rfl | ⟨a, rfl⟩⟩ := h
  · simp [completed, Text.splitOn_of_not_mem hname, hcounts]
  · have hsplit : Text.splitOn '/' (a ++ ['/'] ++ name) = Text.splitOn '/' a ++ [name] := by
      rw [List.append_assoc, List.singleton_append, Text.splitOn_append_cons,
        Text.splitOn_of_not_mem hname]
    rw [completed, hsplit]
    simp [hcounts]

variable {stride : Nat}

theorem paced_of_length_le {cs : List Char} (h : cs.length ≤ stride) : Paced stride cs := by
  intro q hq
  calc q.length ≤ stride := hq.length_le.trans h
    _ ≤ (completed q + 1) * stride := Nat.le_mul_of_pos_left _ (by omega)

theorem Paced.of_prefix {as bs : List Char} (h : Paced stride bs) (hfront : as <+: bs) :
    Paced stride as :=
  fun q hq => h q (hq.trans hfront)

/-- A stretch behind a name that counts. -/
theorem Paced.append {directory part : List Char} (h : Paced stride directory)
    (hends : EndsInName directory) (hpart : part.length + 1 ≤ stride) :
    Paced stride (directory ++ '/' :: part) := by
  intro q hq
  by_cases hshort : q.length ≤ directory.length
  · exact h q (List.prefix_of_prefix_length_le hq (List.prefix_append _ _) hshort)
  · obtain ⟨tail, rfl⟩ := List.prefix_of_prefix_length_le (List.prefix_append directory _) hq (by omega)
    rw [List.prefix_append_right_inj] at hq
    cases tail with
    | nil => simp at hshort
    | cons c r =>
      obtain ⟨rfl, hr⟩ := List.cons_prefix_cons.mp hq
      have hdirectory := h directory (List.prefix_refl _)
      have hrest := hr.length_le
      rw [completed_append_cons, hends.countP_splitOn]
      calc (directory ++ '/' :: r).length
          ≤ (completed directory + 1) * stride + stride := by
            rw [List.length_append, List.length_cons]
            omega
        _ = (completed directory + 1 + 1) * stride := by ring
        _ ≤ (completed directory + 1 + completed r + 1) * stride := Nat.mul_le_mul_right _ (by omega)

/-! ### Directories -/

theorem dropIdle_suffix (cs : List Char) : dropIdle cs <:+ cs := by
  fun_induction dropIdle cs with
  | case1 r ih => exact ih.trans (List.suffix_cons _ _)
  | case2 r ih => exact ih.trans ((List.suffix_cons _ _).trans (List.suffix_cons _ _))
  | case3 => exact List.suffix_refl _

theorem dropIdle_cases (cs : List Char) :
    dropIdle cs = [] ∨ dropIdle cs = ['.'] ∨ EndsInName (dropIdle cs).reverse := by
  fun_induction dropIdle cs with
  | case1 r ih => exact ih
  | case2 r ih => exact ih
  | case3 cs hslash hdot =>
    have hcs := List.takeWhile_append_dropWhile (p := (· ≠ '/')) (l := cs)
    set name := cs.takeWhile (· ≠ '/')
    set rest := cs.dropWhile (· ≠ '/') with hrest
    have hname : '/' ∉ name := fun hmem => by simpa using List.mem_takeWhile_imp hmem
    have hfront : rest = [] ∨ ∃ r, rest = '/' :: r := by
      cases hcases : rest with
      | nil => exact .inl rfl
      | cons c r =>
        have hhead := List.head?_dropWhile_not (· ≠ '/') cs
        rw [← hrest, hcases] at hhead
        exact .inr ⟨r, by simpa using hhead⟩
    by_cases hempty : name = []
    · rw [hempty, List.nil_append] at hcs
      rcases hfront with hnil | ⟨r, hr⟩
      · exact .inl (hcs.symm.trans hnil)
      · exact absurd (hcs.symm.trans hr) (hslash r)
    by_cases hidle : name = ['.']
    · rw [hidle] at hcs
      rcases hfront with hnil | ⟨r, hr⟩
      · exact .inr (.inl (by rw [← hcs, hnil]; rfl))
      · exact absurd (by rw [← hcs, hr]; rfl) (hdot r)
    refine .inr (.inr ⟨rest.reverse, name.reverse, ?_, by simpa using hname, ?_, ?_⟩)
    · rw [← List.reverse_append, hcs]
    · have hreverse : name.reverse ≠ ['.'] := by
        rw [Ne, List.reverse_eq_iff]
        exact hidle
      simp [counts, hempty, hreverse]
    · rcases hfront with hnil | ⟨r, hr⟩
      · exact .inl (by simp [hnil])
      · exact .inr ⟨r.reverse, by simp [hr]⟩

/-- The directory of a document, if it is none of three short ones, is a part of the path that ends in a
name that counts. -/
theorem parent_cases (d : DocPath) : d.parent ∈ ["", ".", "/"] ∨
    d.parent.toList <+: d.text.toList ∧ EndsInName d.parent.toList := by
  unfold parent
  extract_lets body above
  split
  · simp
  split
  · simp
  have hfront : above.reverse <+: d.text.toList := by
    rw [← List.reverse_suffix, List.reverse_reverse]
    exact (dropIdle_suffix _).trans ((List.dropWhile_suffix _).trans (dropIdle_suffix _))
  rcases dropIdle_cases (body.dropWhile (· ≠ '/')) with h | h | h
  · left
    simp [above, h]
  · left
    simp [above, h]
  · right
    simpa using ⟨hfront, h⟩

/-- What a reference puts behind the directory of a document is a stretch. -/
theorem Paced.join {base : DocPath} {part : String} (h : Paced stride base.text.toList)
    (hpart : part.length + 2 ≤ stride) : Paced stride (join base.parent part).toList := by
  have hlength : part.toList.length = part.length := String.length_toList
  have hshort : ∀ directory ∈ ["", ".", "/"], Paced stride (DocPath.join directory part).toList := by
    intro directory hdirectory
    refine paced_of_length_le ?_
    simp only [List.mem_cons, List.not_mem_nil, or_false] at hdirectory
    rcases hdirectory with rfl | rfl | rfl
    · simp [DocPath.join]
      omega
    · unfold DocPath.join
      split
      · omega
      · simp
        omega
    · unfold DocPath.join
      split
      · omega
      · simp
        omega
  rcases parent_cases base with hparent | ⟨hfront, hends⟩
  · exact hshort _ hparent
  · unfold DocPath.join
    split
    · exact paced_of_length_le (by omega)
    split
    · next hslash =>
      obtain ⟨front, name, hsplit, hname, hcounts, -⟩ := hends
      have hne : name ≠ [] := by
        rintro rfl
        simp [counts] at hcounts
      rw [hsplit, List.getLast?_append_of_ne_nil _ hne] at hslash
      exact absurd (List.mem_of_getLast? hslash) hname
    · simpa using (h.of_prefix hfront).append hends (by omega)

/-! ### Keys -/

theorem completed_le_key (d : DocPath) : completed d.text.toList ≤ d.key.2.length := by
  have hnames : ((Text.splitOn '/' d.text.toList).countP counts) =
      ((FileTree.names d.text).filter fun n => n ≠ "" && n ≠ ".").length := by
    rw [FileTree.names, List.filter_map, List.length_map, ← List.countP_eq_length_filter]
    refine List.countP_congr fun name _ => ?_
    have hdot : String.ofList name = "." ↔ name = ['.'] := by
      rw [← String.toList_inj]
      simp
    simp [counts, hdot]
  have hlast : completed d.text.toList ≤ (Text.splitOn '/' d.text.toList).countP counts :=
    (List.dropLast_sublist _).countP_le
  refine hlast.trans ?_
  rw [hnames]
  unfold key
  extract_lets names dot
  simp only
  split
  · exact Nat.le_succ _
  · exact Nat.le_refl _

theorem Paced.length_le {d : DocPath} (h : Paced stride d.text.toList) {depth : Nat}
    (hdepth : d.key.2.length ≤ depth) : d.text.length ≤ (depth + 1) * stride := by
  have hcompleted := completed_le_key d
  calc d.text.length = d.text.toList.length := String.length_toList.symm
    _ ≤ (completed d.text.toList + 1) * stride := h _ (List.prefix_refl _)
    _ ≤ (depth + 1) * stride := Nat.mul_le_mul_right _ (by omega)

end DocPath
end ApiToolbox
