import ApiToolbox.Proofs.Reference.Trail

/-! A library that has grown finds what it found before. It may have read a document from the file at another
path of the same names; but a path that a document has been read from does not stray. -/

namespace ApiToolbox

open Json (Value)

namespace Library

variable {t : FileTree} {l l' l₁ : Library} {d doc : DocPath} {v w : Value}

/-- What a library has grown to by reading a document has grown from it with that document, too. -/
theorem GrownFrom.insert (h : GrownFrom t l l') (hd : l'.get? d = some v) :
    GrownFrom t (l.insert d v) l' where
  keeps d' u hd' := by
    rw [get?_insert] at hd'
    split at hd'
    · next hkey =>
      obtain rfl := Option.some.inj hd'
      rwa [get?, hkey]
    · exact h.keeps d' u hd'
  reads d' u hd' hnone := by
    rw [get?_insert] at hnone
    split at hnone
    · cases hnone
    · exact h.reads d' u hd' hnone

/-- A document that has been loaded is loaded again by a library that has grown. -/
theorem GrownFrom.load (h : GrownFrom t l l₁) (hload : l.load t d = .ok (v, l')) :
    ∃ l₁', l₁.load t d = .ok (v, l₁') ∧ GrownFrom t l' l₁' := by
  rcases load_eq_ok_iff.mp hload with ⟨hv, rfl⟩ | ⟨hnew, ⟨text, htext, hv⟩, rfl⟩
  · exact ⟨l₁, load_eq_ok_iff.mpr (.inl ⟨h.keeps d v hv, rfl⟩), h⟩
  cases hlater : l₁.get? d with
  | none =>
    have hagain : l₁.load t d = .ok (v, l₁.insert d v) :=
      load_eq_ok_iff.mpr (.inr ⟨hlater, ⟨text, htext, hv⟩, rfl⟩)
    exact ⟨_, hagain, (h.of_load hagain).insert (by rw [get?_insert, if_pos rfl])⟩
  | some u =>
    -- The names have been read from the file at another path, which is also the file at this one.
    obtain ⟨d', text', hkey, htext', hu⟩ := h.reads d u hlater hnew
    have hreadable : ¬ d.Strays t := by
      rintro ⟨⟨e, hnowhere⟩, -⟩
      obtain ⟨place, bytes, hlocate, -⟩ := FileTree.file_of_read htext
      cases hnowhere.symm.trans hlocate
    obtain rfl := Except.ok.inj (htext.symm.trans (DocPath.read_of_key_eq hkey hreadable htext'))
    obtain rfl := Option.some.inj (hv.symm.trans hu)
    exact ⟨l₁, load_eq_ok_iff.mpr (.inl ⟨hlater, rfl⟩), h.insert hlater⟩

/-- One reference that has been followed is followed again. -/
theorem GrownFrom.hop {s s' : Stand} {target : Target} (h : GrownFrom t s.library l₁)
    (hhop : Hop t s target s') : ∃ l₁', Hop t ⟨l₁, s.doc, s.value⟩ target ⟨l₁', s'.doc, s'.value⟩ ∧
      GrownFrom t s'.library l₁' := by
  obtain ⟨r, hr⟩ := hhop.refers
  obtain ⟨content, hload, hvalue⟩ := hhop.value
  obtain ⟨l₁', hload', hgrown⟩ := h.load hload
  exact ⟨l₁', ⟨⟨r, hr.reference, hr.target⟩, ⟨content, hload', hvalue⟩, hhop.doc⟩, hgrown⟩

/-- A chain is followed to a value if it begins there, or if a hop leads to a chain that is. -/
theorem follow_eq_ok_iff {fuel : Nat} {seen : List String} :
    follow t fuel seen l doc v = (.ok (d, w), l') ↔
      (v.reference? = none ∧ (⟨l, doc, v⟩ : Stand) = ⟨l', d, w⟩) ∨
      ∃ steps target s, fuel = steps + 1 ∧ target.label ∉ seen ∧ Hop t ⟨l, doc, v⟩ target s ∧
        follow t steps (target.label :: seen) s.library s.doc s.value = (.ok (d, w), l') := by
  constructor
  · intro h
    unfold follow at h
    split at h
    · next hr =>
      obtain ⟨hfound, rfl⟩ := Prod.mk.inj h
      obtain ⟨rfl, rfl⟩ := Prod.mk.inj (Except.ok.inj hfound)
      exact .inl ⟨hr, rfl⟩
    · next r hr =>
      split at h
      · cases h
      · next target htarget =>
        split at h
        · cases h
        · next hnew =>
          split at h
          · cases h
          · next steps =>
            split at h
            · cases h
            · next u l₂ hfetch =>
              exact .inr ⟨steps, target, ⟨l₂, target.doc, u⟩, rfl, hnew, hop_of_fetch ⟨hr, htarget⟩ hfetch, h⟩
  · rintro (⟨hr, hhere⟩ | ⟨steps, target, s, rfl, hnew, hhop, h⟩)
    · obtain ⟨rfl, rfl, rfl⟩ := Stand.mk.inj hhere
      unfold follow
      rw [hr]
    · obtain ⟨r, hr⟩ := hhop.refers
      rw [follow]
      have hfetch := hhop.fetch r
      simpa [hr.reference, hr.target, hnew, hfetch, hhop.doc] using h

/-- A value that has been found is found again by a library that has grown. -/
theorem GrownFrom.follow {fuel : Nat} {seen : List String} (h : GrownFrom t l l₁)
    (hfound : follow t fuel seen l doc v = (.ok (d, w), l')) :
    ∃ l₁', Library.follow t fuel seen l₁ doc v = (.ok (d, w), l₁') := by
  induction fuel using Nat.strong_induction_on generalizing seen l l₁ doc v with
  | _ fuel ih =>
    rcases follow_eq_ok_iff.mp hfound with ⟨hr, hhere⟩ | ⟨steps, target, s, rfl, hnew, hhop, hrest⟩
    · obtain ⟨rfl, rfl, rfl⟩ := Stand.mk.inj hhere
      exact ⟨l₁, follow_eq_ok_iff.mpr (.inl ⟨hr, rfl⟩)⟩
    · obtain ⟨l₂, hhop', hgrown⟩ := h.hop hhop
      obtain ⟨l₁', hrest'⟩ := ih steps (Nat.lt_succ_self steps) hgrown hrest
      exact ⟨l₁', follow_eq_ok_iff.mpr (.inr ⟨steps, target, _, rfl, hnew, hhop', hrest'⟩)⟩

theorem GrownFrom.fst_resolveWithin {limit : Nat} (h : GrownFrom t l l₁)
    (hfound : (resolveWithin t limit l doc v).1 = .ok (d, w)) :
    (resolveWithin t limit l₁ doc v).1 = .ok (d, w) := by
  obtain ⟨l₁', hagain⟩ := h.follow (Prod.ext hfound rfl)
  exact congrArg Prod.fst hagain

end Library
end ApiToolbox
