import ApiToolbox.Proofs.Reference.Trail
import Mathlib.Data.Set.Card

/-! How long a chain of references can be. The targets on a trail are among those that the references of
the documents at hand denote, and these are finitely many, as paths within the scope are of bounded
length. So a chain that comes to no target twice is at its end after that many steps and one more. -/

namespace ApiToolbox

open Json (Value)

namespace Library

/-- The targets that references denote, each seen from the document it is in: the references in the value
at the beginning, and those in documents that are denoted. What has been read is kept by the names of the
document, so a document may have what stands in the file of another one of the same names. -/
inductive Denoted (t : FileTree) (l : Library) (doc : DocPath) (start : Value) : Target → Prop where
  | start {r : String} {target : Target} (hr : r ∈ references start)
      (h : Target.ofReference t doc r = .ok target) : Denoted t l doc start target
  | document {base same target : Target} {content : Value} {l' : Library} {r : String}
      (hbase : Denoted t l doc start base) (hsame : Denoted t l doc start same)
      (hkey : same.doc.key = base.doc.key) (hload : l.load t same.doc = .ok (content, l'))
      (hr : r ∈ references content) (h : Target.ofReference t base.doc r = .ok target) :
      Denoted t l doc start target

section Denoted

variable {t : FileTree} {l l' : Library} {doc d : DocPath} {start v w : Value} {target : Target}

/-! ### There are finitely many targets -/

theorem Denoted.exists_base (h : Denoted t l doc start target) :
    ∃ base r, (scope t l doc start).HasDoc base ∧ r ∈ (scope t l doc start).spelled ∧
      Target.ofReference t base r = .ok target := by
  obtain ⟨hcover, hdoc, hl⟩ := Scope.covers_scope t l doc start
  induction h with
  | start hr h => exact ⟨doc, _, hdoc, Scope.hasValue_scope t l doc start (.inl rfl) hr, h⟩
  | @document base same target content l' r _ _ hkey hload hr h ihbase ihsame =>
    obtain ⟨_, _, hbefore, hspelled, hbase⟩ := ihbase
    have hbase := Scope.hasTarget_of_ofReference hcover hbefore hspelled hbase
    obtain ⟨_, _, hbefore, hspelled, hsame⟩ := ihsame
    have hsame := Scope.hasTarget_of_ofReference hcover hbefore hspelled hsame
    obtain ⟨hdoc', hcontent, -⟩ := Scope.hasDoc_of_load hcover hl hsame hload
    exact ⟨base.doc, r, ⟨hbase.spells, hkey ▸ hdoc'.depth⟩, hcontent hr, h⟩

theorem Scope.finite_hasDoc (S : Scope) : {d | S.HasDoc d}.Finite := by
  refine Set.Finite.of_injOn (f := fun d : DocPath => Text.code d.text.toList) (fun d hd => ?_) ?_
    (Set.finite_Iio (2 ^ (21 * ((S.depth + 1) * S.stride))))
  · exact Text.code_lt (String.length_toList ▸ hd.spells.length_le hd.depth)
  · intro d _ d' _ h
    exact congrArg DocPath.mk (String.toList_inj.mp (Text.code_injective h))

theorem finite_denoted (t : FileTree) (l : Library) (doc : DocPath) (start : Value) :
    {target | Denoted t l doc start target}.Finite := by
  set S := scope t l doc start
  have hfound : ((fun p : DocPath × String => Target.ofReference t p.1 p.2) ''
      ({d | S.HasDoc d} ×ˢ {r | r ∈ S.spelled})).Finite :=
    (S.finite_hasDoc.prod S.spelled.finite_toSet).image _
  refine (hfound.preimage (f := Except.ok) fun _ _ _ _ h => Except.ok.inj h).subset ?_
  intro target h
  obtain ⟨base, r, hbase, hr, htarget⟩ := Denoted.exists_base h
  exact ⟨(base, r), ⟨hbase, hr⟩, htarget⟩

/-! ### The targets on a trail are denoted -/

/-- The content is what a document of these names has that is denoted. -/
def DenotedContent (t : FileTree) (l : Library) (doc : DocPath) (start : Value) (d : DocPath)
    (content : Value) : Prop :=
  ∃ same l', Denoted t l doc start same ∧ same.doc.key = d.key ∧ l.load t same.doc = .ok (content, l')

/-- A chain that has begun at a value stands where all that it can come across next is denoted. -/
structure Within (t : FileTree) (l : Library) (doc : DocPath) (start : Value) (s : Stand) : Prop where
  grown : GrownFrom t l s.library
  kept : ∀ d v, s.library.get? d = some v → l.get? d = some v ∨ DenotedContent t l doc start d v
  value : ∀ r ∈ references s.value, ∀ target, Target.ofReference t s.doc r = .ok target →
    Denoted t l doc start target

theorem within_start (t : FileTree) (l : Library) (doc : DocPath) (start : Value) :
    Within t l doc start ⟨l, doc, start⟩ where
  grown := .refl t l
  kept _ _ h := .inl h
  value _ hr _ h := .start hr h

theorem references_subset_value? (h : target.value? v = some w) : references w ⊆ references v := by
  obtain ⟨pointer, hfind⟩ := Target.exists_find?_of_value? h
  exact references_subset_find hfind

variable {s s' : Stand} {targets : List Target}

theorem Within.load (h : Within t l doc start s) (hdenoted : Denoted t l doc start target)
    (hload : s.library.load t target.doc = .ok (v, l')) :
    DenotedContent t l doc start target.doc v ∧
      ∀ d u, l'.get? d = some u → l.get? d = some u ∨ DenotedContent t l doc start d u := by
  rcases load_eq_ok_iff.mp hload with ⟨hv, rfl⟩ | ⟨hnew, hfile, rfl⟩
  · refine ⟨?_, h.kept⟩
    rcases h.kept _ v hv with hfirst | hcontent
    · exact ⟨target, l, hdenoted, rfl, load_of_get? t hfirst⟩
    · exact hcontent
  · -- It is read now, and so it would have been at the beginning.
    have hfirst : l.get? target.doc = none := by
      cases hfirst : l.get? target.doc with
      | none => rfl
      | some u => cases hnew.symm.trans (h.grown.keeps _ u hfirst)
    have hload := load_eq_ok_iff.mpr (.inr ⟨hfirst, hfile, rfl⟩)
    refine ⟨⟨target, _, hdenoted, rfl, hload⟩, fun d u hu => ?_⟩
    rw [get?_insert] at hu
    split at hu
    · next hkey =>
      obtain rfl := Option.some.inj hu
      exact .inr ⟨target, _, hdenoted, hkey.symm, hload⟩
    · exact h.kept d u hu

theorem Within.hop (h : Within t l doc start s) (hhop : Hop t s target s') :
    Denoted t l doc start target ∧ Within t l doc start s' := by
  obtain ⟨r, hr⟩ := hhop.refers
  have hdenoted := h.value r (mem_references hr.reference) target hr.target
  obtain ⟨content, hload, hvalue⟩ := hhop.value
  obtain ⟨⟨same, l₁, hsame, hkey, hcontent⟩, hkept⟩ := h.load hdenoted hload
  refine ⟨hdenoted, h.grown.trans hhop.grownFrom, hkept, fun r' hr' next hnext => ?_⟩
  rw [hhop.doc] at hnext
  exact .document hdenoted hsame hkey hcontent (references_subset_value? hvalue hr') hnext

theorem Within.trail (h : Within t l doc start s) (htrail : Trail t s targets s') :
    ∀ target ∈ targets, Denoted t l doc start target := by
  induction htrail with
  | here _ => simp
  | hop hhop _ ih =>
    obtain ⟨hdenoted, hwithin⟩ := h.hop hhop
    exact List.forall_mem_cons.mpr ⟨hdenoted, ih hwithin⟩

theorem length_le_ncard (htrail : Trail t ⟨l, doc, start⟩ targets s)
    (hnodup : (targets.map Target.label).Nodup) :
    targets.length ≤ {target | Denoted t l doc start target}.ncard := by
  have hdenoted := (within_start t l doc start).trail htrail
  have hcard : targets.toFinset.card = targets.length :=
    List.toFinset_card_of_nodup hnodup.of_map
  rw [← hcard, ← Set.ncard_coe_finset]
  refine Set.ncard_le_ncard (fun target h => ?_) (finite_denoted t l doc start)
  exact hdenoted target (by simpa using h)

end Denoted

/-- Resolving ends whatever the files, the library and the value are. The references at hand denote finitely
many targets, each a path as it is written and a pointer. There is a trail that comes to no label twice and
stops with what resolving finds. It takes no more steps than there are such targets, and one more, and with
this many steps allowed following the chain finds the same. -/
theorem resolve_stops (t : FileTree) (l : Library) (doc : DocPath) (v : Value) :
    {target | Denoted t l doc v target}.Finite ∧
      (∃ targets s, Trail t ⟨l, doc, v⟩ targets s ∧ (targets.map Target.label).Nodup ∧
        Stops t (targets.map Target.label) s (resolve t l doc v) ∧
        targets.length + 1 ≤ {target | Denoted t l doc v target}.ncard + 1) ∧
      ∀ limit, {target | Denoted t l doc v target}.ncard + 1 ≤ limit →
        resolveWithin t limit l doc v = resolve t l doc v := by
  obtain ⟨targets, s, htrail, hnodup, hstops⟩ := exists_trail_of_resolve t l doc v
  have hlength := Nat.succ_le_succ (length_le_ncard htrail hnodup)
  refine ⟨finite_denoted t l doc v, ⟨targets, s, htrail, hnodup, hstops, hlength⟩, fun limit hlimit => ?_⟩
  exact htrail.resolveWithin (hlength.trans hlimit) hnodup hstops

end Library
end ApiToolbox
