import ApiToolbox.Proofs.Steps
import ApiToolbox.Proofs.Text.Pieces
import ApiToolbox.Proofs.Url.Punycode
import ApiToolbox.Url.Domain

/-! What the ASCII form of a domain name holds: no character that is refused in a name, and so none
that has a meaning around one. -/

namespace ApiToolbox.Url.Domain

/-- A character of a domain name in its ASCII form. -/
def isNameChar (c : Char) : Bool := c.toNat < 128 && !isForbidden c

theorem isNameChar_of_isDigit {c : Char} (h : Punycode.IsDigit c) : isNameChar c = true :=
  h.forall (by decide)

theorem isNameChar_of_mem_encode {label : List Char} (h : ∀ c ∈ label, isForbidden c = false) :
    ∀ c ∈ Punycode.encode label, isNameChar c = true := by
  intro c hc
  rcases Punycode.mem_encode hc with ⟨hmem, hlt⟩ | rfl | hd
  · simp [isNameChar, hlt, h c hmem]
  · decide
  · exact isNameChar_of_isDigit hd

theorem isForbidden_of_isValidLabel {label : List Char} (h : isValidLabel label = true) :
    ∀ c ∈ label, isForbidden c = false := by
  intro c hc
  simp only [isValidLabel, Bool.and_eq_true, List.all_eq_true] at h
  simpa using (h.1.1.1 c hc).1

theorem isNameChar_of_ascii {label : List Char} (hlt : label.all (·.toNat < 128) = true)
    (hf : label.any isForbidden = false) : ∀ c ∈ label, isNameChar c = true := by
  intro c hc
  simp only [List.all_eq_true, decide_eq_true_eq, List.any_eq_false] at hlt hf
  simp [isNameChar, hlt c hc, hf c hc]

theorem Label.isNameChar_ascii {mapped : List Char} {label : Label}
    (h : Label.ofMapped? mapped = some label) : ∀ c ∈ label.ascii, isNameChar c = true := by
  unfold Label.ofMapped? at h
  split at h
  · next code =>
    split at h
    · next hok =>
      simp only [Bool.and_eq_true, Bool.not_eq_true'] at hok
      split at h
      · split at h
        · obtain rfl := Option.some.inj h
          exact isNameChar_of_ascii hok.1 hok.2
        · cases h
      · cases h
    · cases h
  · split at h
    · next hlt =>
      split at h
      · cases h
      · next hf =>
        obtain rfl := Option.some.inj h
        exact isNameChar_of_ascii hlt (by simpa using hf)
    · split at h
      · next hv =>
        obtain rfl := Option.some.inj h
        intro c hc
        rcases List.mem_append.mp hc with hc | hc
        · exact List.all_eq_true.mp (by decide : "xn--".toList.all isNameChar = true) c hc
        · exact isNameChar_of_mem_encode (isForbidden_of_isValidLabel hv) c hc
      · cases h

/-- Every label of a name comes from a mapped text. -/
theorem exists_ofMapped?_of_mem_labels? {name : List Char} {labels : List Label}
    (h : labels? name = some labels) : ∀ label ∈ labels, ∃ mapped, Label.ofMapped? mapped = some label := by
  simp only [labels?, Option.bind_eq_bind, Option.bind_eq_some_iff] at h
  obtain ⟨mapped, -, found, hfound, h⟩ := h
  split at h
  · cases h
  · obtain rfl := Option.some.inj h
    intro label hlabel
    obtain ⟨piece, -, hpiece⟩ := exists_of_mem_forall₂ (mapM_eq_some_iff.mp hfound) hlabel
    exact ⟨piece, hpiece⟩

theorem isNameChar_of_toAscii? {bytes : List UInt8} {name : String}
    (h : toAscii? bytes = some name) : ∀ c ∈ name.toList, isNameChar c = true := by
  simp only [toAscii?, Option.bind_eq_bind, Option.bind_eq_some_iff, Option.some.injEq] at h
  obtain ⟨text, -, labels, hlabels, rfl⟩ := h
  rw [String.toList_ofList]
  refine Text.forall_mem_intercalate (by decide) ?_
  intro piece hpiece
  obtain ⟨label, hlabel, rfl⟩ := List.mem_map.mp hpiece
  obtain ⟨mapped, hmapped⟩ := exists_ofMapped?_of_mem_labels? hlabels label hlabel
  exact Label.isNameChar_ascii hmapped

end ApiToolbox.Url.Domain
