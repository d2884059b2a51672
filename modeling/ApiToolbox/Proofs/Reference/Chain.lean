import ApiToolbox.Proofs.Reference.Scope

/-! Chains of references come to an end. By the rules a chain goes on until it leads nowhere, or to a value,
or to a target that it has met. Its targets are within the scope that it begins with, so that happens
before the limit, and the rules and the steps within the limit find the same. -/

namespace ApiToolbox

open Json (Value)

namespace Library

/-- The rules by which a chain of references is followed, with no bound on its length: what is found at its
end, and the library then. -/
inductive Follows (t : FileTree) : List String → Library → DocPath → Value →
    Except ReferenceError (DocPath × Value) × Library → Prop where
  | value {seen : List String} {l : Library} {doc : DocPath} {v : Value} (h : v.reference? = none) :
      Follows t seen l doc v (.ok (doc, v), l)
  | astray {seen : List String} {l : Library} {doc : DocPath} {v : Value} {r : String}
      {e : ReferenceError} (hr : v.reference? = some r) (h : Target.ofReference t doc r = .error e) :
      Follows t seen l doc v (.error e, l)
  | cyclic {seen : List String} {l : Library} {doc : DocPath} {v : Value} {r : String}
      {target : Target} (hr : v.reference? = some r) (htarget : Target.ofReference t doc r = .ok target)
      (h : target.label ∈ seen) : Follows t seen l doc v (.error (.cyclic r), l)
  | lost {seen : List String} {l l' : Library} {doc : DocPath} {v : Value} {r : String}
      {target : Target} {e : ReferenceError} (hr : v.reference? = some r)
      (htarget : Target.ofReference t doc r = .ok target) (hnew : target.label ∉ seen)
      (h : l.fetch t r target = (.error e, l')) : Follows t seen l doc v (.error e, l')
  | step {seen : List String} {l l' : Library} {doc : DocPath} {v w : Value} {r : String}
      {target : Target} {found : Except ReferenceError (DocPath × Value) × Library}
      (hr : v.reference? = some r) (htarget : Target.ofReference t doc r = .ok target)
      (hnew : target.label ∉ seen) (hw : l.fetch t r target = (.ok w, l'))
      (h : Follows t (target.label :: seen) l' target.doc w found) : Follows t seen l doc v found

section Follows

variable {t : FileTree} {seen : List String} {l l' : Library} {doc : DocPath} {v w : Value} {r : String}
  {target : Target} {found : Except ReferenceError (DocPath × Value) × Library}

theorem follows_iff_of_value (h : v.reference? = none) :
    Follows t seen l doc v found ↔ found = (.ok (doc, v), l) := by
  constructor
  · intro hfollows
    cases hfollows with
    | value _ => rfl
    | astray hr _ | cyclic hr _ _ | lost hr _ _ _ | step hr _ _ _ _ => cases h.symm.trans hr
  · rintro rfl
    exact .value h

theorem follows_iff_of_astray {e : ReferenceError} (hr : v.reference? = some r)
    (h : Target.ofReference t doc r = .error e) :
    Follows t seen l doc v found ↔ found = (.error e, l) := by
  constructor
  · intro hfollows
    cases hfollows with
    | value hnone => cases hr.symm.trans hnone
    | astray hr' h' =>
      obtain rfl := Option.some.inj (hr.symm.trans hr')
      rw [Except.error.inj (h.symm.trans h')]
    | cyclic hr' h' _ | lost hr' h' _ _ | step hr' h' _ _ _ =>
      obtain rfl := Option.some.inj (hr.symm.trans hr')
      cases h.symm.trans h'
  · rintro rfl
    exact .astray hr h

theorem follows_iff_of_target (hr : v.reference? = some r)
    (htarget : Target.ofReference t doc r = .ok target) : Follows t seen l doc v found ↔
      (target.label ∈ seen ∧ found = (.error (.cyclic r), l)) ∨
      (target.label ∉ seen ∧ ((∃ e l', l.fetch t r target = (.error e, l') ∧ found = (.error e, l')) ∨
        ∃ w l', l.fetch t r target = (.ok w, l') ∧
          Follows t (target.label :: seen) l' target.doc w found)) := by
  constructor
  · intro hfollows
    cases hfollows with
    | value hnone => cases hr.symm.trans hnone
    | astray hr' h' =>
      obtain rfl := Option.some.inj (hr.symm.trans hr')
      cases htarget.symm.trans h'
    | cyclic hr' h' hmem =>
      obtain rfl := Option.some.inj (hr.symm.trans hr')
      obtain rfl := Except.ok.inj (htarget.symm.trans h')
      exact .inl ⟨hmem, rfl⟩
    | lost hr' h' hnew hlost =>
      obtain rfl := Option.some.inj (hr.symm.trans hr')
      obtain rfl := Except.ok.inj (htarget.symm.trans h')
      exact .inr ⟨hnew, .inl ⟨_, _, hlost, rfl⟩⟩
    | step hr' h' hnew hw hrest =>
      obtain rfl := Option.some.inj (hr.symm.trans hr')
      obtain rfl := Except.ok.inj (htarget.symm.trans h')
      exact .inr ⟨hnew, .inr ⟨_, _, hw, hrest⟩⟩
  · rintro (⟨hmem, rfl⟩ | ⟨hnew, ⟨e, l', hlost, rfl⟩ | ⟨w, l', hw, hrest⟩⟩)
    · exact .cyclic hr htarget hmem
    · exact .lost hr htarget hnew hlost
    · exact .step hr htarget hnew hw hrest

end Follows

namespace Scope

variable {t : FileTree} {S : Scope} {l : Library} {doc : DocPath} {v : Value}

/-! ### All of a chain -/

/-- What a chain comes to at its end is within the scope that it began with. -/
def HasEnd (S : Scope) (found : Except ReferenceError (DocPath × Value)) : Prop :=
  ∀ d w, found = .ok (d, w) → S.HasDoc d ∧ S.HasValue w

theorem hasEnd_error (e : ReferenceError) : S.HasEnd (.error e) := by
  intro d w h
  cases h

/-- With enough steps left, following a chain finds what the rules say. -/
theorem follows_iff (hcover : S.Covers t) {steps : Nat} {seen : List String} (hseen : seen.Nodup)
    (hlabels : ∀ s ∈ seen, s.length ≤ S.labelLength) (hsteps : S.limit ≤ seen.length + steps)
    (hl : S.HasLibrary l) (hdoc : S.HasDoc doc) (hv : S.HasValue v) :
    (∀ found, Follows t seen l doc v found ↔ found = follow t steps seen l doc v) ∧
      S.HasLibrary (follow t steps seen l doc v).2 ∧ S.HasEnd (follow t steps seen l doc v).1 := by
  induction steps generalizing seen l doc v with
  | zero =>
    -- Steps are always left: as many targets as the limit says would be more texts than there are.
    have hmet := Text.length_le_of_nodup hseen hlabels
    rw [limit_eq] at hsteps
    omega
  | succ steps ih =>
    rw [follow]
    cases hreference : v.reference? with
    | none =>
      refine ⟨fun found => follows_iff_of_value hreference, hl, fun d w h => ?_⟩
      obtain ⟨rfl, rfl⟩ := Prod.mk.inj (Except.ok.inj h)
      exact ⟨hdoc, hv⟩
    | some r =>
      simp only
      cases htarget : Target.ofReference t doc r with
      | error e => exact ⟨fun found => follows_iff_of_astray hreference htarget, hl, hasEnd_error e⟩
      | ok target =>
        simp only [follows_iff_of_target hreference htarget]
        by_cases hmet : target.label ∈ seen
        · rw [if_pos hmet]
          exact ⟨fun found => by simp [hmet], hl, hasEnd_error _⟩
        · rw [if_neg hmet]
          have hwithin := hasTarget_of_ofReference hcover hdoc (hv (mem_references hreference)) htarget
          obtain ⟨hl', hfound⟩ := hasLibrary_fetch (r := r) hcover hl hwithin
          generalize l.fetch t r target = fetched at hl' hfound ⊢
          obtain ⟨e | w, l'⟩ := fetched
          · exact ⟨fun found => by simp [hmet], hl', hasEnd_error e⟩
          · obtain ⟨hdoc', hw⟩ := hfound w rfl
            have hlabel := length_label hwithin hdoc'
            have hrest := ih (hseen.cons hmet) (by simpa [hlabel] using hlabels)
              (by rw [List.length_cons]; omega) hl' hdoc' hw
            refine ⟨fun found => ?_, hrest.2⟩
            simpa [hmet] using hrest.1 found

end Scope

/-- No chain of references goes on for ever, whatever the files are: by the rules it ends, and with what is
computed within the limit. -/
theorem follows_iff_eq_resolve (t : FileTree) (l : Library) (doc : DocPath) (v : Value)
    (found : Except ReferenceError (DocPath × Value) × Library) :
    Follows t [] l doc v found ↔ found = resolve t l doc v := by
  obtain ⟨hcover, hdoc, hl⟩ := Scope.covers_scope t l doc v
  have hv := Scope.hasValue_scope t l doc v (.inl rfl)
  have hsteps : (scope t l doc v).limit ≤ ([] : List String).length + stepLimit t l doc v := by
    simp [stepLimit]
  exact (Scope.follows_iff hcover List.nodup_nil (by simp) hsteps hl hdoc hv).1 found

end Library
end ApiToolbox
