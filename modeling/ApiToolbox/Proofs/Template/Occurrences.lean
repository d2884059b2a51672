import ApiToolbox.Proofs.Template.Parts

/-! Placeholders by their places. Where the parts of a template can be told apart, a placeholder occurs in
its text exactly where it is a part; and filling in names one after the other fills in, of each name, as many
of its first occurrences as it comes among them. -/

namespace ApiToolbox.Template

theorem slots_append (parts parts' : List Part) : slots (parts ++ parts') = slots parts ++ slots parts' :=
  List.filterMap_append

/-! ### Occurrences -/

section Occurrences

variable {name : String} {xs rest as bs : List Char}

/-- Text without opening braces in front only moves a placeholder. -/
theorem exists_append_of_append_eq (h : '{' ∉ xs) (heq : xs ++ rest = as ++ (placeholder name ++ bs)) :
    ∃ as', as = xs ++ as' ∧ rest = as' ++ (placeholder name ++ bs) := by
  rcases List.append_eq_append_iff.mp heq with ⟨as', has, hrest⟩ | ⟨cs, hxs, hys⟩
  · exact ⟨as', has, hrest⟩
  · cases cs with
    | nil => exact ⟨[], by simpa using hxs.symm, by simpa using hys.symm⟩
    | cons c cs =>
      obtain ⟨rfl, -⟩ := List.cons.inj hys
      refine absurd ?_ h
      rw [hxs]
      simp

/-- So does text with an opening brace at its beginning alone, unless the placeholder is there. -/
theorem exists_append_of_cons_append_eq {a : Char} (h : '{' ∉ xs)
    (heq : ('{' :: xs) ++ rest = (a :: as) ++ (placeholder name ++ bs)) :
    ∃ as', a :: as = ('{' :: xs) ++ as' ∧ rest = as' ++ (placeholder name ++ bs) := by
  obtain ⟨rfl, htail⟩ := List.cons.inj heq
  obtain ⟨as', rfl, hrest⟩ := exists_append_of_append_eq h htail
  exact ⟨as', rfl, hrest⟩

/-- A placeholder occurs in a text exactly where it is a part of it. -/
theorem source_eq_append_iff {parts : List Part} (hparts : Legible parts)
    (hname : (Part.slot name).IsPlain) : parts.flatMap Part.source = as ++ (placeholder name ++ bs) ↔
      ∃ before after, parts = before ++ .slot name :: after ∧
        before.flatMap Part.source = as ∧ after.flatMap Part.source = bs := by
  obtain ⟨hne, -, hclose⟩ := hname
  constructor
  · intro h
    -- The induction is on the parts; `as` shrinks with them until the placeholder comes first.
    induction hparts generalizing as with
    | nil => simp [placeholder] at h
    | unclosed htext =>
      refine absurd ?_ htext
      have htextEq := h
      rw [List.flatMap_singleton, Part.source] at htextEq
      rw [htextEq]
      simp [placeholder]
    | @braces rest _ ih =>
      rw [List.flatMap_cons] at h
      cases as with
      | nil =>
        obtain ⟨c, r, hc⟩ := List.exists_cons_of_ne_nil (show name.toList ≠ [] by simpa using hne)
        obtain ⟨rfl, -⟩ : '}' = c ∧ rest.flatMap Part.source = r ++ '}' :: bs := by
          simpa [Part.source, placeholder, hc] using h
        exact absurd (hc ▸ List.mem_cons_self) hclose
      | cons a as =>
        have hbrace : '{' ∉ ['}'] := by simp
        obtain ⟨as', has, hrest⟩ := exists_append_of_cons_append_eq hbrace h
        obtain ⟨before, after, rfl, rfl, rfl⟩ := ih hrest
        exact ⟨.literal "\x7b\x7d" :: before, after, rfl, has.symm, rfl⟩
    | @literal text rest htext _ ih =>
      rw [List.flatMap_cons] at h
      obtain ⟨as', rfl, hrest⟩ := exists_append_of_append_eq htext h
      obtain ⟨before, after, rfl, rfl, rfl⟩ := ih hrest
      exact ⟨.literal text :: before, after, rfl, rfl, rfl⟩
    | @slot other rest hplain _ ih =>
      rw [List.flatMap_cons] at h
      cases as with
      | nil =>
        obtain ⟨rfl, rfl⟩ := placeholder_append_inj hplain.2.2 hclose h
        exact ⟨[], rest, rfl, rfl, rfl⟩
      | cons a as =>
        have hbrace : '{' ∉ other.toList ++ ['}'] := by simpa using hplain.2.1
        obtain ⟨as', has, hrest⟩ := exists_append_of_cons_append_eq hbrace h
        obtain ⟨before, after, rfl, rfl, rfl⟩ := ih hrest
        exact ⟨.slot other :: before, after, rfl, has.symm, rfl⟩
  · rintro ⟨before, after, rfl, rfl, rfl⟩
    simp [Part.source]

end Occurrences

/-! ### Filling in the first occurrences -/

/-- How a part stands behind others: a placeholder has its text as long as its name has not come as many
times as it is to be filled in. -/
def Part.filledBehind (texts : String → List Char) (times : String → Nat) (before : List Part) :
    Part → List Char
  | literal text => text.toList
  | slot name => if (slots before).count name < times name then texts name else placeholder name

/-- The parts with the first occurrences of each placeholder filled in, as many as are said. -/
def fillTimes (texts : String → List Char) (times : String → Nat) (parts : List Part) : List Char :=
  parts.zipIdx.flatMap fun (part, i) => part.filledBehind texts times (parts.take i)

section Behind

variable {texts : String → List Char} {times : String → Nat} {before : List Part} {left : List String}
  (hleft : ∀ n, left.count n = times n - (slots before).count n)
include hleft

/-- A part uses up one of its names, if there is one. -/
theorem count_left (part : Part) (n : String) : (part.name?.elim left left.erase).count n =
    times n - (slots (before ++ [part])).count n := by
  cases part with
  | literal text =>
    rw [slots_append, slots_literal, slots_nil, List.append_nil]
    exact hleft n
  | slot name =>
    have herase : ((Part.slot name).name?.elim left left.erase).count n = (left.erase name).count n := rfl
    rw [herase, List.count_erase, hleft n, slots_append, List.count_append, slots_slot, slots_nil,
      List.count_singleton, Nat.sub_sub]

/-- There is a name left for a placeholder as long as it has not come as often as it is to be filled in. -/
theorem filled_eq_filledBehind (part : Part) :
    part.filled texts left = part.filledBehind texts times before := by
  cases part with
  | literal text => rfl
  | slot name =>
    have hmem : name ∈ left ↔ (slots before).count name < times name := by
      rw [← List.count_pos_iff, hleft name, Nat.sub_pos_iff_lt]
    simp only [Part.filled, Part.filledBehind, hmem]

end Behind

/-- Behind other parts, the names that are left are those that these have not used up. -/
theorem fillEach_behind (texts : String → List Char) (times : String → Nat) (before : List Part)
    {left : List String} (hleft : ∀ n, left.count n = times n - (slots before).count n)
    (parts : List Part) : fillEach texts left parts =
      (parts.zipIdx before.length).flatMap fun (part, i) =>
        part.filledBehind texts times ((before ++ parts).take i) := by
  induction parts generalizing before left with
  | nil => rfl
  | cons part rest ih =>
    have htake : (before ++ part :: rest).take before.length = before := List.take_left
    have happend : before ++ part :: rest = (before ++ [part]) ++ rest := by simp
    have hlength : before.length + 1 = (before ++ [part]).length := by simp
    simp only [List.zipIdx_cons, List.flatMap_cons, htake]
    rw [happend, hlength, fillEach, filled_eq_filledBehind hleft part, ih _ (count_left hleft part)]

/-- Of each name, as many first occurrences are filled in as it comes among the names. -/
theorem fillEach_eq_fillTimes (texts : String → List Char) (names : List String) (parts : List Part) :
    fillEach texts names parts = fillTimes texts (fun n => names.count n) parts :=
  fillEach_behind texts (fun n => names.count n) [] (fun n => by simp) parts

end ApiToolbox.Template
