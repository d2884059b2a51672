import ApiToolbox.Proofs.Template

/-! The placeholder names of a template, told by where they stand in it. Every text has them in one way, and
scanning finds them. -/

namespace ApiToolbox.Template

/-- The names in a text, told by where they stand. Each is what stands between an opening brace and the next
closing one, further opening braces included, and the text behind that is read on its own. Where nothing
stands between the two there is no name, and behind a brace that is never closed there is none either. -/
inductive HasNames : List Char → List String → Prop where
  | none {text : List Char} (htext : '{' ∉ text) : HasNames text []
  | unclosed {text rest : List Char} (htext : '{' ∉ text) (hrest : '}' ∉ rest) :
      HasNames (text ++ '{' :: rest) []
  | empty {text rest : List Char} {names : List String} (htext : '{' ∉ text)
      (hrest : HasNames rest names) : HasNames (text ++ placeholder "" ++ rest) names
  | next {text rest : List Char} {name : String} {names : List String} (htext : '{' ∉ text)
      (hne : name ≠ "") (hname : '}' ∉ name.toList) (hrest : HasNames rest names) :
      HasNames (text ++ placeholder name ++ rest) (name :: names)

variable {cs : List Char} {names : List String}

theorem scan_of_not_mem (acc : List Char) (h : '}' ∉ cs) : scan (some acc) cs = [] := by
  induction cs generalizing acc with
  | nil => rfl
  | cons c r ih =>
    simp only [List.mem_cons, not_or] at h
    rw [scan, if_neg (Ne.symm h.1), ih _ h.2]

theorem map_scan_of_hasNames (h : HasNames cs names) : (scan none cs).map String.ofList = names := by
  induction h with
  | none htext =>
    simpa [scan] using scan_append htext []
  | @unclosed text rest htext hrest =>
    have hopened : scan none ('{' :: rest) = [] := scan_of_not_mem [] hrest
    rw [scan_append htext, hopened, List.map_nil]
  | @empty text rest names htext _ ih =>
    have hbraces : scan none (placeholder "" ++ rest) = scan none rest := rfl
    rw [List.append_assoc, scan_append htext, hbraces, ih]
  | next htext hne hname _ ih =>
    rw [List.append_assoc, scan_append htext, scan_placeholder hne hname, List.map_cons,
      String.ofList_toList, ih]

/-- A text is read from its first opening brace to the closing one behind it, and then from there. -/
theorem exists_hasNames (cs : List Char) : ∃ names, HasNames cs names := by
  by_cases hopen : '{' ∈ cs
  · obtain ⟨text, behind, rfl, htext⟩ := List.eq_append_cons_of_mem hopen
    by_cases hclose : '}' ∈ behind
    · obtain ⟨name, rest, rfl, hname⟩ := List.eq_append_cons_of_mem hclose
      obtain ⟨names, hrest⟩ := exists_hasNames rest
      have hsplit : text ++ '{' :: (name ++ '}' :: rest) =
          text ++ placeholder (String.ofList name) ++ rest := by simp [placeholder]
      rw [hsplit]
      by_cases hempty : String.ofList name = ""
      · exact ⟨names, hempty ▸ .empty htext hrest⟩
      · exact ⟨_, .next htext hempty (by rwa [String.toList_ofList]) hrest⟩
    · exact ⟨[], .unclosed htext hclose⟩
  · exact ⟨[], .none hopen⟩
termination_by cs.length

/-- Scanning finds the names of a template, and there is no other way to read them. -/
theorem hasNames_iff {template : String} :
    HasNames template.toList names ↔ names = placeholders template := by
  constructor
  · exact fun h => (map_scan_of_hasNames h).symm
  · rintro rfl
    obtain ⟨names, h⟩ := exists_hasNames template.toList
    have hnames : names = placeholders template := (map_scan_of_hasNames h).symm
    exact hnames ▸ h

theorem HasNames.ne_empty (h : HasNames cs names) : "" ∉ names := by
  induction h with
  | none _ => exact List.not_mem_nil
  | unclosed _ _ => exact List.not_mem_nil
  | empty _ _ ih => exact ih
  | next _ hne _ _ ih => exact List.not_mem_cons_of_ne_of_not_mem hne.symm ih

end ApiToolbox.Template
