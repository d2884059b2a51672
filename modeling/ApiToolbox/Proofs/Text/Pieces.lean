import ApiToolbox.Text.Blank
import Mathlib.Data.List.DropRight

/-! Texts in pieces: what cutting and joining do to each other. -/

namespace ApiToolbox.Text

/-- A property of the ASCII characters can be looked up for each of them. -/
theorem forall_ascii {P : Char → Prop} (h : ∀ n < 128, P (Char.ofNat n)) {c : Char}
    (hc : c.toNat < 128) : P c := by
  simpa using h c.toNat hc

theorem toNat_lt_of_isAlphanum {c : Char} (h : c.isAlphanum = true) : c.toNat < 128 := by
  have hle : c.toNat ≤ 'z'.toNat := by
    rcases (Bool.or_eq_true _ _).mp h with hletter | hdigit
    · rcases (Bool.or_eq_true _ _).mp hletter with hupper | hlower
      · exact (UInt32.le_iff_toNat_le.mp (of_decide_eq_true hupper).2).trans (by decide)
      · exact UInt32.le_iff_toNat_le.mp (of_decide_eq_true ((Bool.and_eq_true _ _).mp hlower).2)
    · have hnine := of_decide_eq_true ((Bool.and_eq_true _ _).mp hdigit).2
      exact (UInt32.le_iff_toNat_le.mp hnine).trans (by decide)
  exact hle.trans_lt (by decide)

theorem toNat_lt_of_toLower {c : Char} (h : c.toLower.toNat < 128) : c.toNat < 128 := by
  unfold Char.toLower at h
  split at h
  · next hc =>
    have hle : c.toNat ≤ 90 := UInt32.le_iff_toNat_le.mp hc.2
    omega
  · exact h

theorem toLower_toLower (c : Char) : c.toLower.toLower = c.toLower := by
  by_cases hc : c.toNat < 128
  · exact forall_ascii (P := fun c => c.toLower.toLower = c.toLower) (by decide +kernel) hc
  · have hself : c.toLower = c := by
      unfold Char.toLower
      rw [dif_neg]
      rintro ⟨-, hle⟩
      have hle : c.toNat ≤ 90 := UInt32.le_iff_toNat_le.mp hle
      omega
    rw [hself, hself]

theorem asciiLower_asciiLower (s : String) : asciiLower (asciiLower s) = asciiLower s := by
  have hself : Char.toLower ∘ Char.toLower = Char.toLower := funext toLower_toLower
  rw [asciiLower, asciiLower, String.toList_ofList, List.map_map, hself]

/-! ### Pieces between separators -/

theorem splitOn_eq (sep : Char) (cs : List Char) : splitOn sep cs = cs.splitOn sep := by
  induction cs with
  | nil => rfl
  | cons c r ih =>
    rw [splitOn, ih, List.splitOn, List.splitOn, List.splitOnP_cons_eq_if_modifyHead]
    by_cases h : c = sep
    · simp [h]
    · obtain ⟨w, ws, hw⟩ := List.exists_cons_of_ne_nil (List.splitOnP_ne_nil (· == sep) r)
      simp [h, hw]

theorem splitOn_intercalate {sep : Char} {pieces : List (List Char)} (hne : pieces ≠ [])
    (h : ∀ piece ∈ pieces, sep ∉ piece) : splitOn sep ([sep].intercalate pieces) = pieces := by
  rw [splitOn_eq]
  exact List.splitOn_intercalate sep h hne

theorem splitOn_ne_nil (sep : Char) (cs : List Char) : splitOn sep cs ≠ [] := by
  rw [splitOn_eq]
  exact List.splitOnP_ne_nil _ cs

theorem splitOn_of_not_mem {sep : Char} {piece : List Char} (h : sep ∉ piece) :
    splitOn sep piece = [piece] := by
  have hsingle : ∀ p ∈ [piece], sep ∉ p := by simpa using h
  simpa using splitOn_intercalate (List.cons_ne_nil piece []) hsingle

theorem splitOn_append_cons (sep : Char) (as bs : List Char) :
    splitOn sep (as ++ sep :: bs) = splitOn sep as ++ splitOn sep bs := by
  simp only [splitOn_eq, List.splitOn]
  exact List.splitOnP_append_cons as bs (beq_self_eq_true sep)

theorem intercalate_splitOn (sep : Char) (cs : List Char) :
    [sep].intercalate (splitOn sep cs) = cs := by
  rw [splitOn_eq]
  exact List.intercalate_splitOn sep

theorem mem_of_mem_splitOn {sep : Char} {cs piece : List Char} (h : piece ∈ splitOn sep cs) :
    ∀ c ∈ piece, c ≠ sep ∧ c ∈ cs := by
  induction cs generalizing piece with
  | nil =>
    obtain rfl := List.mem_singleton.mp h
    simp
  | cons d r ih =>
    have hrest {q : List Char} (hq : q ∈ splitOn sep r) : ∀ c ∈ q, c ≠ sep ∧ c ∈ d :: r :=
      fun c hc => ⟨(ih hq c hc).1, List.mem_cons_of_mem _ (ih hq c hc).2⟩
    rw [splitOn] at h
    split at h
    · rcases List.mem_cons.mp h with rfl | h
      · simp
      · exact hrest h
    · next hd =>
      split at h
      · obtain rfl := List.mem_singleton.mp h
        simpa using hd
      · next w ws hw =>
        rcases List.mem_cons.mp h with rfl | h
        · have hw := hrest (q := w) (by simp [hw])
          simpa [hd] using hw
        · exact hrest (by simp [hw, h])

theorem forall_mem_intercalate {p : Char → Prop} {sep : Char} (hsep : p sep)
    {pieces : List (List Char)} (h : ∀ piece ∈ pieces, ∀ c ∈ piece, p c) :
    ∀ c ∈ [sep].intercalate pieces, p c := by
  induction pieces with
  | nil => simp
  | cons piece rest ih =>
    intro c hc
    have ih := ih fun q hq => h q (by simp [hq])
    cases rest with
    | nil => exact h piece (by simp) c (by simpa using hc)
    | cons q r =>
      rw [List.intercalate_cons_of_ne_nil (by simp)] at hc
      simp only [List.append_assoc, List.mem_append, List.mem_singleton] at hc
      rcases hc with hc | rfl | hc
      · exact h piece (by simp) c hc
      · exact hsep
      · exact ih c hc

/-! ### Cutting at the first separator -/

/-- Text in front that has no separator only moves the cut. -/
theorem cutAt?_append {sep : Char} {as : List Char} (h : sep ∉ as) (bs : List Char) :
    cutAt? sep (as ++ bs) = (cutAt? sep bs).map fun (before, after) => (as ++ before, after) := by
  induction as with
  | nil => simp
  | cons c r ih =>
    simp only [List.mem_cons, not_or] at h
    rw [List.cons_append, cutAt?, if_neg (Ne.symm h.1), ih h.2, Option.map_map]
    rfl

theorem cutAt?_of_not_mem {sep : Char} {cs : List Char} (h : sep ∉ cs) : cutAt? sep cs = none := by
  simpa [cutAt?] using cutAt?_append h []

theorem cutAt?_append_cons {sep : Char} {as : List Char} (h : sep ∉ as) (bs : List Char) :
    cutAt? sep (as ++ sep :: bs) = some (as, bs) := by
  rw [cutAt?_append h]
  simp [cutAt?]

theorem eq_of_cutAt? {sep : Char} {cs before after : List Char}
    (h : cutAt? sep cs = some (before, after)) : cs = before ++ sep :: after := by
  induction cs generalizing before with
  | nil => simp [cutAt?] at h
  | cons c r ih =>
    rw [cutAt?] at h
    split at h
    · next hc =>
      obtain ⟨rfl, rfl⟩ := Prod.mk.inj (Option.some.inj h)
      rw [hc, List.nil_append]
    · obtain ⟨⟨front, back⟩, hcut, heq⟩ := Option.map_eq_some_iff.mp h
      obtain ⟨rfl, rfl⟩ := Prod.mk.inj heq
      rw [ih hcut, List.cons_append]

/-! ### Dropping a run at the end -/

theorem dropEndWhile_eq (p : Char → Bool) (cs : List Char) : dropEndWhile p cs = cs.rdropWhile p := rfl

theorem dropEndWhile_append {p : Char → Bool} {bs : List Char} (h : ∃ c ∈ bs, p c = false)
    (as : List Char) : dropEndWhile p (as ++ bs) = as ++ dropEndWhile p bs := by
  have hne : bs.reverse.dropWhile p ≠ [] := by
    obtain ⟨c, hc, hp⟩ := h
    rw [Ne, List.dropWhile_eq_nil_iff]
    intro hall
    simpa [hp] using hall c (by simpa using hc)
  simp [dropEndWhile, List.dropWhile_append, hne]

theorem dropEndWhile_eq_self {p : Char → Bool} {cs : List Char} (h : ∀ c ∈ cs, p c = false) :
    dropEndWhile p cs = cs := by
  rw [dropEndWhile_eq, List.rdropWhile_eq_self_iff]
  intro hne
  simp [h _ (List.getLast_mem hne)]

theorem dropEndWhile_append_of_forall {p : Char → Bool} {as : List Char}
    (h : ∀ c ∈ as, p c = false) (bs : List Char) :
    dropEndWhile p (as ++ bs) = as ++ dropEndWhile p bs := by
  by_cases hbs : ∃ c ∈ bs, p c = false
  · exact dropEndWhile_append hbs as
  · have hall : ∀ c ∈ bs, p c = true := by simpa using hbs
    have hnil : dropEndWhile p bs = [] := List.rdropWhile_eq_nil_iff.mpr hall
    rw [hnil, List.append_nil, dropEndWhile, List.reverse_append,
      List.dropWhile_append_of_pos (by simpa using hall)]
    exact dropEndWhile_eq_self h

theorem dropWhile_eq_self {p : Char → Bool} {cs : List Char} (h : ∀ c ∈ cs.head?, p c = false) :
    cs.dropWhile p = cs := by
  cases cs with
  | nil => rfl
  | cons c r => exact List.dropWhile_cons_of_neg (by simp [h c rfl])

/-- Runs at both ends are dropped, and nothing between them. -/
theorem dropEndWhile_dropWhile_append {p : Char → Bool} {front back : List Char}
    (hfront : ∀ c ∈ front, p c = true) (hback : ∀ c ∈ back, p c = true) {cs : List Char}
    (hhead : ∀ c ∈ cs.head?, p c = false) (hlast : ∀ c ∈ cs.getLast?, p c = false) :
    dropEndWhile p ((front ++ cs ++ back).dropWhile p) = cs := by
  rw [List.append_assoc, List.dropWhile_append_of_pos hfront]
  rcases eq_or_ne cs [] with rfl | hne
  · have hnil : back.dropWhile p = [] := List.dropWhile_eq_nil_iff.mpr hback
    rw [List.nil_append, hnil]
    rfl
  · have hreverse : ∀ c ∈ back.reverse, p c = true := fun c hc => hback c (List.mem_reverse.mp hc)
    have hends : ∀ c ∈ cs.reverse.head?, p c = false := by rwa [List.head?_reverse]
    rw [dropWhile_eq_self (by rwa [List.head?_append_of_ne_nil _ hne]), dropEndWhile,
      List.reverse_append, List.dropWhile_append_of_pos hreverse, dropWhile_eq_self hends,
      List.reverse_reverse]

theorem trim_append {front back : List Char} (hfront : ∀ c ∈ front, isBlank c = true)
    (hback : ∀ c ∈ back, isBlank c = true) {cs : List Char} (hhead : ∀ c ∈ cs.head?, isBlank c = false)
    (hlast : ∀ c ∈ cs.getLast?, isBlank c = false) : trim (front ++ cs ++ back) = cs :=
  dropEndWhile_dropWhile_append hfront hback hhead hlast

theorem trim_eq_self {cs : List Char} (h : ∀ c ∈ cs, isBlank c = false) : trim cs = cs := by
  have htrim := trim_append (List.forall_mem_nil _) (List.forall_mem_nil _)
    (fun c hc => h c (List.mem_of_mem_head? hc)) fun c hc => h c (List.mem_of_mem_getLast? hc)
  rwa [List.nil_append, List.append_nil] at htrim

/-- What is left of a text is the text without a run at its end. -/
theorem exists_append_dropEndWhile (p : Char → Bool) (cs : List Char) :
    ∃ run, cs = dropEndWhile p cs ++ run ∧ ∀ c ∈ run, p c = true := by
  refine ⟨(cs.reverse.takeWhile p).reverse, ?_, ?_⟩
  · rw [dropEndWhile, ← List.reverse_append, List.takeWhile_append_dropWhile, List.reverse_reverse]
  · intro c hc
    exact List.mem_takeWhile_imp (by simpa using hc)

/-! ### White space at the ends -/

theorem head?_trim (cs : List Char) : ∀ c ∈ (trim cs).head?, isBlank c = false := by
  intro c hc
  obtain ⟨run, happend, -⟩ : ∃ run, cs.dropWhile isBlank = trim cs ++ run ∧ ∀ c ∈ run, isBlank c = true :=
    exists_append_dropEndWhile isBlank (cs.dropWhile isBlank)
  have hne : trim cs ≠ [] := List.ne_nil_of_mem (List.mem_of_mem_head? hc)
  have hhead : (cs.dropWhile isBlank).head? = some c := by
    rw [happend, List.head?_append_of_ne_nil _ hne]
    exact hc
  have hnot := List.head?_dropWhile_not isBlank cs
  rwa [hhead] at hnot

theorem getLast?_trim (cs : List Char) : ∀ c ∈ (trim cs).getLast?, isBlank c = false := by
  intro c hc
  have hne : trim cs ≠ [] := List.ne_nil_of_mem (List.mem_of_getLast? hc)
  have hlast : ¬ isBlank ((trim cs).getLast hne) = true :=
    List.rdropWhile_last_not isBlank (cs.dropWhile isBlank) hne
  obtain rfl : (trim cs).getLast hne = c :=
    Option.some.inj ((List.getLast?_eq_some_getLast hne).symm.trans hc)
  simpa using hlast

/-- A text is what is left of it between two runs of white space. -/
theorem exists_append_trim (cs : List Char) : ∃ front back, cs = front ++ trim cs ++ back ∧
    (∀ c ∈ front, isBlank c = true) ∧ ∀ c ∈ back, isBlank c = true := by
  obtain ⟨back, happend, hback⟩ := exists_append_dropEndWhile isBlank (cs.dropWhile isBlank)
  refine ⟨cs.takeWhile isBlank, back, ?_, fun c hc => List.mem_takeWhile_imp hc, hback⟩
  calc cs = cs.takeWhile isBlank ++ cs.dropWhile isBlank := List.takeWhile_append_dropWhile.symm
    _ = cs.takeWhile isBlank ++ (trim cs ++ back) := congrArg _ happend
    _ = cs.takeWhile isBlank ++ trim cs ++ back := (List.append_assoc ..).symm

theorem trim_append_of_blank {front back : List Char} (hfront : ∀ c ∈ front, isBlank c = true)
    (hback : ∀ c ∈ back, isBlank c = true) (cs : List Char) : trim (front ++ cs ++ back) = trim cs := by
  obtain ⟨front', back', happend, hfront', hback'⟩ := exists_append_trim cs
  have hcs : front ++ cs ++ back = (front ++ front') ++ trim cs ++ (back' ++ back) := by
    conv_lhs => rw [happend]
    simp only [List.append_assoc]
  rw [hcs]
  refine trim_append (fun c hc => ?_) (fun c hc => ?_) (head?_trim cs) (getLast?_trim cs)
  · exact (List.mem_append.mp hc).elim (hfront c) (hfront' c)
  · exact (List.mem_append.mp hc).elim (hback' c) (hback c)

theorem trim_eq_nil_iff {cs : List Char} : trim cs = [] ↔ ∀ c ∈ cs, isBlank c = true := by
  constructor
  · intro hnil c hc
    obtain ⟨front, back, happend, hfront, hback⟩ := exists_append_trim cs
    rw [happend, hnil, List.append_nil] at hc
    exact (List.mem_append.mp hc).elim (hfront c) (hback c)
  · intro hall
    have hnil := trim_append_of_blank hall (List.forall_mem_nil _) []
    rwa [List.append_nil, List.append_nil] at hnil

theorem trimmed_eq_empty_iff {s : String} : trimmed s = "" ↔ isBlankText s = true := by
  rw [trimmed, ← String.toList_inj, String.toList_ofList, String.toList_empty, trim_eq_nil_iff, isBlankText,
    List.all_eq_true]

/-! ### Replacing -/

theorem isPrefixOf?_eq_some_iff {old cs rest : List Char} :
    old.isPrefixOf? cs = some rest ↔ cs = old ++ rest := by
  induction old generalizing cs with
  | nil => simp [List.isPrefixOf?]
  | cons c r ih =>
    cases cs with
    | nil => simp [List.isPrefixOf?]
    | cons d s =>
      by_cases hcd : c = d
      · simp [List.isPrefixOf?, hcd, ih]
      · simp [List.isPrefixOf?, hcd, Ne.symm hcd]

theorem replaceFirst_append_self {old : List Char} (h : old ≠ []) (new cs : List Char) :
    replaceFirst old new (old ++ cs) = new ++ cs := by
  obtain ⟨c, r, rfl⟩ := List.exists_cons_of_ne_nil h
  rw [List.cons_append, replaceFirst, isPrefixOf?_eq_some_iff.mpr (List.cons_append ..).symm]

theorem replaceFirst_cons {old : List Char} {c : Char} {r : List Char}
    (h : ∀ rest, c :: r ≠ old ++ rest) (new : List Char) :
    replaceFirst old new (c :: r) = c :: replaceFirst old new r := by
  rw [replaceFirst]
  cases hp : old.isPrefixOf? (c :: r) with
  | none => rfl
  | some rest => exact absurd (isPrefixOf?_eq_some_iff.mp hp) (h rest)

theorem mem_of_mem_replaceFirst {old new cs : List Char} {c : Char}
    (h : c ∈ replaceFirst old new cs) : c ∈ new ∨ c ∈ cs := by
  induction cs with
  | nil =>
    rw [replaceFirst] at h
    split at h
    · exact .inl h
    · exact .inr h
  | cons d r ih =>
    rw [replaceFirst] at h
    split at h
    · next rest hrest =>
      rw [isPrefixOf?_eq_some_iff] at hrest
      rcases List.mem_append.mp h with h | h
      · exact .inl h
      · exact .inr (hrest ▸ List.mem_append_right old h)
    · rcases List.mem_cons.mp h with rfl | h
      · exact .inr List.mem_cons_self
      · exact (ih h).imp_right (List.mem_cons_of_mem d)

end ApiToolbox.Text
