import ApiToolbox.Proofs.Reference.Chain

/-! One reference at a time. A hop leads from a value that is a reference to the value at its target, and
a trail is made of hops, whether it comes to a target again or not. Following a chain by the rules is to
take the trail on which all targets differ, to where it stops. -/

namespace ApiToolbox

open Json (Value)

/-- The value at a target, inside of its document. -/
def Target.value? (target : Target) (content : Value) : Option Value :=
  match target.pointer with
  | none => some content
  | some p => Json.Pointer.find? content p

/-- A whole document is what the empty pointer leads to. -/
theorem Target.exists_find?_of_value? {target : Target} {content w : Value}
    (h : target.value? content = some w) : ∃ pointer, Json.Pointer.find? content pointer = some w := by
  unfold value? at h
  split at h
  · exact ⟨"", h⟩
  · exact ⟨_, h⟩

namespace Library

variable {t : FileTree} {l l' : Library} {d : DocPath} {v w : Value} {r : String} {target : Target}

/-! ### Loading and fetching -/

theorem GrownFrom.trans {l₀ : Library} (h : GrownFrom t l₀ l) (h' : GrownFrom t l l') :
    GrownFrom t l₀ l' where
  keeps d v hd := h'.keeps d v (h.keeps d v hd)
  reads d v hd hnone := by
    cases hmiddle : l.get? d with
    | none => exact h'.reads d v hd hmiddle
    | some u =>
      obtain rfl := Option.some.inj ((h'.keeps d u hmiddle).symm.trans hd)
      exact h.reads d u hmiddle hnone

theorem load_of_get? (t : FileTree) (h : l.get? d = some v) : l.load t d = .ok (v, l) :=
  load_eq_ok_iff.mpr (.inl ⟨h, rfl⟩)

theorem get?_of_load (h : l.load t d = .ok (v, l')) : l'.get? d = some v := by
  rcases load_eq_ok_iff.mp h with ⟨hv, rfl⟩ | ⟨-, -, rfl⟩
  · exact hv
  · rw [get?_insert, if_pos rfl]

theorem fetch_eq_ok_iff : l.fetch t r target = (.ok w, l') ↔
    ∃ content, l.load t target.doc = .ok (content, l') ∧ target.value? content = some w := by
  unfold fetch Target.value?
  cases l.load t target.doc with
  | error e => simp
  | ok loaded =>
    cases target.pointer with
    | none => simp [Prod.ext_iff]
    | some p => cases hfound : Json.Pointer.find? loaded.1 p <;> simp [Prod.ext_iff, hfound, and_comm]

/-! ### Hops -/

/-- Where a chain of references stands: what has been loaded, a document, and a value in it. -/
@[ext]
structure Stand where
  library : Library
  doc : DocPath
  value : Value

variable {s s' s₁ s₂ : Stand} {targets : List Target}

/-- The value is a reference. It points to the target, seen from the document that the value is in. -/
structure Stand.RefersTo (t : FileTree) (s : Stand) (r : String) (target : Target) : Prop where
  reference : s.value.reference? = some r
  target : Target.ofReference t s.doc r = .ok target

theorem Stand.RefersTo.unique {r' : String} {target' : Target} (h : s.RefersTo t r target)
    (h' : s.RefersTo t r' target') : r = r' ∧ target = target' := by
  obtain rfl := Option.some.inj (h.reference.symm.trans h'.reference)
  exact ⟨rfl, Except.ok.inj (h.target.symm.trans h'.target)⟩

/-- One reference is followed to the value at its target. -/
structure Hop (t : FileTree) (s : Stand) (target : Target) (s' : Stand) : Prop where
  refers : ∃ r, s.RefersTo t r target
  value : ∃ content, s.library.load t target.doc = .ok (content, s'.library) ∧
    target.value? content = some s'.value
  doc : s'.doc = target.doc

theorem hop_of_fetch (hr : s.RefersTo t r target)
    (h : s.library.fetch t r target = (.ok w, l')) : Hop t s target ⟨l', target.doc, w⟩ :=
  ⟨⟨r, hr⟩, fetch_eq_ok_iff.mp h, rfl⟩

theorem Hop.fetch (h : Hop t s target s') (r : String) :
    s.library.fetch t r target = (.ok s'.value, s'.library) :=
  fetch_eq_ok_iff.mpr h.value

theorem Hop.unique {target' : Target} (h : Hop t s target s₁) (h' : Hop t s target' s₂) :
    target = target' ∧ s₁ = s₂ := by
  obtain ⟨r, hr⟩ := h.refers
  obtain ⟨r', hr'⟩ := h'.refers
  obtain ⟨rfl, rfl⟩ := hr.unique hr'
  obtain ⟨hvalue, hlibrary⟩ := Prod.mk.inj ((h.fetch r).symm.trans (h'.fetch r))
  exact ⟨rfl, Stand.ext hlibrary (h.doc.trans h'.doc.symm) (Except.ok.inj hvalue)⟩

theorem Hop.grownFrom (h : Hop t s target s') : GrownFrom t s.library s'.library := by
  obtain ⟨content, hload, -⟩ := h.value
  exact (GrownFrom.refl t s.library).of_load hload

/-! ### Trails -/

/-- References are followed to their targets, one after the other. -/
inductive Trail (t : FileTree) : Stand → List Target → Stand → Prop where
  | here (s : Stand) : Trail t s [] s
  | hop {s s' s'' : Stand} {target : Target} {targets : List Target} (h : Hop t s target s')
      (hrest : Trail t s' targets s'') : Trail t s (target :: targets) s''

namespace Trail

variable {as bs : List Target}

theorem append (h : Trail t s as s') (h' : Trail t s' bs s₂) : Trail t s (as ++ bs) s₂ := by
  induction h with
  | here _ => exact h'
  | hop hhop _ ih => exact .hop hhop (ih h')

theorem split (h : Trail t s (as ++ bs) s₂) : ∃ s', Trail t s as s' ∧ Trail t s' bs s₂ := by
  induction as generalizing s with
  | nil => exact ⟨s, .here s, h⟩
  | cons target rest ih =>
    cases h with
    | hop hhop hrest =>
      obtain ⟨s', hfront, hback⟩ := ih hrest
      exact ⟨s', .hop hhop hfront, hback⟩

/-- Of two trails from one stand, the longer goes on where the shorter ends. -/
theorem comparable (h : Trail t s as s₁) (h' : Trail t s bs s₂) :
    (∃ rest, bs = as ++ rest ∧ Trail t s₁ rest s₂) ∨ ∃ rest, as = bs ++ rest ∧ Trail t s₂ rest s₁ := by
  induction h generalizing bs with
  | here s => exact .inl ⟨bs, rfl, h'⟩
  | hop hhop hrest ih =>
    cases h' with
    | here _ => exact .inr ⟨_, rfl, .hop hhop hrest⟩
    | hop hhop' hrest' =>
      obtain ⟨rfl, rfl⟩ := hhop.unique hhop'
      rcases ih hrest' with ⟨rest, rfl, hlater⟩ | ⟨rest, rfl, hlater⟩
      · exact .inl ⟨rest, rfl, hlater⟩
      · exact .inr ⟨rest, rfl, hlater⟩

theorem grownFrom (h : Trail t s targets s') : GrownFrom t s.library s'.library := by
  induction h with
  | here s => exact .refl t s.library
  | hop hhop _ ih => exact hhop.grownFrom.trans ih

/-- A trail can be taken again with a library that has kept all that was loaded on it. The files are not read
for this, so they may hold other things by then, as long as references have the same targets. -/
theorem replay {t' : FileTree} (h : Trail t s targets s')
    (htargets : ∀ d r, Target.ofReference t' d r = Target.ofReference t d r)
    (hkept : ∀ d v, s'.library.get? d = some v → l.get? d = some v) :
    Trail t' ⟨l, s.doc, s.value⟩ targets ⟨l, s'.doc, s'.value⟩ := by
  induction h with
  | here s => exact .here _
  | @hop s s₁ _ target _ hhop hrest ih =>
    obtain ⟨r, hr⟩ := hhop.refers
    obtain ⟨content, hload, hvalue⟩ := hhop.value
    have hlater := hkept _ _ (hrest.grownFrom.keeps _ _ (get?_of_load hload))
    have hagain : Hop t' ⟨l, s.doc, s.value⟩ target ⟨l, s₁.doc, s₁.value⟩ :=
      ⟨⟨r, hr.reference, (htargets s.doc r).trans hr.target⟩, ⟨content, load_of_get? t' hlater, hvalue⟩,
        hhop.doc⟩
    exact .hop hagain (ih hkept)

end Trail

/-! ### Where a trail stops -/

/-- What is found at the end of a chain that has met targets with these labels. -/
inductive Stops (t : FileTree) (met : List String) (s : Stand) :
    Except ReferenceError (DocPath × Value) × Library → Prop where
  | value (h : s.value.reference? = none) : Stops t met s (.ok (s.doc, s.value), s.library)
  | astray {r : String} {e : ReferenceError} (hr : s.value.reference? = some r)
      (h : Target.ofReference t s.doc r = .error e) : Stops t met s (.error e, s.library)
  | cyclic {r : String} {target : Target} (hr : s.RefersTo t r target) (h : target.label ∈ met) :
      Stops t met s (.error (.cyclic r), s.library)
  | lost {r : String} {target : Target} {e : ReferenceError} {l : Library} (hr : s.RefersTo t r target)
      (hnew : target.label ∉ met) (h : s.library.fetch t r target = (.error e, l)) :
      Stops t met s (.error e, l)

variable {found : Except ReferenceError (DocPath × Value) × Library} {met met' seen : List String}

theorem Stops.reverse (h : Stops t met s found) : Stops t met.reverse s found := by
  cases h with
  | value h => exact .value h
  | astray hr h => exact .astray hr h
  | cyclic hr h => exact .cyclic hr (List.mem_reverse.mpr h)
  | lost hr hnew h => exact .lost hr (fun hmem => hnew (List.mem_reverse.mp hmem)) h

/-- The labels met, the last one first. -/
def labelsMet (seen : List String) (targets : List Target) : List String :=
  (targets.map Target.label).reverse ++ seen

theorem labelsMet_nil (targets : List Target) :
    labelsMet [] targets = (targets.map Target.label).reverse :=
  List.append_nil _

theorem labelsMet_cons (seen : List String) (target : Target) (targets : List Target) :
    labelsMet seen (target :: targets) = labelsMet (target.label :: seen) targets := by
  simp [labelsMet]

theorem not_mem_of_nodup_labelsMet {label : String}
    (h : (labelsMet (label :: seen) targets).Nodup) : label ∉ seen := by
  have hseen := (List.nodup_append.mp h).2.1
  exact (List.nodup_cons.mp hseen).1

theorem exists_trail_of_follows (h : Follows t seen l d v found) (hseen : seen.Nodup) :
    ∃ targets s, Trail t ⟨l, d, v⟩ targets s ∧ (labelsMet seen targets).Nodup ∧
      Stops t (labelsMet seen targets) s found := by
  induction h with
  | value h => exact ⟨[], _, .here _, hseen, .value h⟩
  | astray hr h => exact ⟨[], _, .here _, hseen, .astray hr h⟩
  | cyclic hr htarget h => exact ⟨[], _, .here _, hseen, .cyclic ⟨hr, htarget⟩ h⟩
  | lost hr htarget hnew h => exact ⟨[], _, .here _, hseen, .lost ⟨hr, htarget⟩ hnew h⟩
  | step hr htarget hnew hw _ ih =>
    obtain ⟨targets, s, htrail, hnodup, hstops⟩ := ih (hseen.cons hnew)
    rw [← labelsMet_cons] at hnodup hstops
    exact ⟨_, s, .hop (hop_of_fetch ⟨hr, htarget⟩ hw) htrail, hnodup, hstops⟩

/-- What resolving finds stands at the end of a trail whose targets have different labels. -/
theorem exists_trail_of_resolve (t : FileTree) (l : Library) (doc : DocPath) (v : Value) :
    ∃ targets s, Trail t ⟨l, doc, v⟩ targets s ∧ (targets.map Target.label).Nodup ∧
      Stops t (targets.map Target.label) s (resolve t l doc v) := by
  have hfollows := (follows_iff_eq_resolve t l doc v _).mpr rfl
  obtain ⟨targets, s, htrail, hnodup, hstops⟩ := exists_trail_of_follows hfollows List.nodup_nil
  rw [labelsMet_nil] at hnodup hstops
  refine ⟨targets, s, htrail, List.nodup_reverse.mp hnodup, ?_⟩
  simpa using hstops.reverse

/-- By the rules, following a chain takes a trail without repetition to where it stops. -/
theorem Trail.follows (h : Trail t s targets s') (hnodup : (labelsMet seen targets).Nodup)
    (hstops : Stops t (labelsMet seen targets) s' found) :
    Follows t seen s.library s.doc s.value found := by
  induction h generalizing seen with
  | here s =>
    replace hstops : Stops t seen s found := hstops
    cases hstops with
    | value h => exact .value h
    | astray hr h => exact .astray hr h
    | cyclic hr h => exact .cyclic hr.reference hr.target h
    | lost hr hnew h => exact .lost hr.reference hr.target hnew h
  | @hop s s₁ s₂ target targets hhop _ ih =>
    obtain ⟨r, hr⟩ := hhop.refers
    rw [labelsMet_cons] at hnodup hstops
    have hnew := not_mem_of_nodup_labelsMet hnodup
    have hrest := ih hnodup hstops
    rw [hhop.doc] at hrest
    exact .step hr.reference hr.target hnew (hhop.fetch r) hrest

theorem Trail.resolve (h : Trail t ⟨l, d, v⟩ targets s) (hnodup : (targets.map Target.label).Nodup)
    (hstops : Stops t (targets.map Target.label) s found) : resolve t l d v = found := by
  refine ((follows_iff_eq_resolve t l d v found).mp (h.follows ?_ ?_)).symm
  · rw [labelsMet_nil]
    exact List.nodup_reverse.mpr hnodup
  · rw [labelsMet_nil]
    exact hstops.reverse

/-- With steps for the targets of a trail and one more, following a chain finds what stands at its end. -/
theorem Trail.follow {limit : Nat} (h : Trail t s targets s') (hlimit : targets.length + 1 ≤ limit)
    (hnodup : (labelsMet seen targets).Nodup) (hstops : Stops t (labelsMet seen targets) s' found) :
    follow t limit seen s.library s.doc s.value = found := by
  induction h generalizing limit seen with
  | here s =>
    obtain ⟨limit, rfl⟩ := Nat.exists_eq_add_of_lt hlimit
    replace hstops : Stops t seen s found := hstops
    rw [Library.follow]
    cases hstops with
    | value h => simp [h]
    | astray hr h => simp [hr, h]
    | cyclic hr h => simp [hr.reference, hr.target, h]
    | lost hr hnew h => simp [hr.reference, hr.target, hnew, h]
  | @hop s s₁ s₂ target targets hhop hrest ih =>
    obtain ⟨limit, rfl⟩ := Nat.exists_eq_add_of_lt hlimit
    obtain ⟨r, hr⟩ := hhop.refers
    rw [labelsMet_cons] at hnodup hstops
    have hnew := not_mem_of_nodup_labelsMet hnodup
    have hrest := ih (Nat.le_add_right _ limit) hnodup hstops
    rw [hhop.doc] at hrest
    rw [Library.follow]
    simpa [hr.reference, hr.target, hnew, hhop.fetch r] using hrest

theorem Trail.resolveWithin {limit : Nat} (h : Trail t ⟨l, d, v⟩ targets s)
    (hlimit : targets.length + 1 ≤ limit) (hnodup : (targets.map Target.label).Nodup)
    (hstops : Stops t (targets.map Target.label) s found) : resolveWithin t limit l d v = found := by
  refine h.follow hlimit ?_ ?_
  · rw [labelsMet_nil]
    exact List.nodup_reverse.mpr hnodup
  · rw [labelsMet_nil]
    exact hstops.reverse

end Library
end ApiToolbox
