import ApiToolbox.Proofs.Index
import ApiToolbox.Proofs.Reference.Chain

/-! The load of an index ends. It follows references from values inside the documents that it has read,
and all of these are within the scope of the index. So by rules that know no limit for a chain the load
has one outcome, the one that is computed within the limit. -/

namespace ApiToolbox.Index

open Json (Value)
open Library (Scope)

/-- Follow references from a value by the rules alone. -/
def Source.follows (s : Source) : Resolver (StateT Library SetM) :=
  fun doc v l => Set.ofPred fun found => Library.Follows s.tree [] l doc v found

variable {S : Scope} {doc : DocPath} {v w : Value} {ms : Members Value}

theorem hasValue_member {key : String} (hv : S.HasValue (.object ms)) (hw : ms.get? key = some w) :
    S.HasValue w :=
  List.Subset.trans (Library.references_subset_members (Members.mem_of_get? hw)) hv

/-- From every value within the scope, a resolver that is told by rules has one outcome, that of a resolver
that computes. -/
def Resolves (S : Scope) (resolve' : Resolver (StateT Library SetM))
    (resolve : Resolver (StateM Library)) : Prop :=
  ∀ doc v, S.HasDoc doc → S.HasValue v →
    Settles S.HasLibrary (resolve' doc v) (resolve doc v) S.HasEnd

section Load

variable {resolve' : Resolver (StateT Library SetM)} {resolve : Resolver (StateM Library)}
  (h : Resolves S resolve' resolve)

include h

theorem settles_parameters (hdoc : S.HasDoc doc) {v : Option Value} (hv : ∀ w, v = some w → S.HasValue w) :
    Settles S.HasLibrary (parameters resolve' doc v) (parameters resolve doc v) fun _ => True := by
  unfold parameters
  refine (Settles.mapM fun item hitem => ?_).bind fun found _ => .pure trivial
  obtain ⟨vs, rfl, hmem⟩ := Value.exists_of_mem_items hitem
  have hvalue : S.HasValue item :=
    List.Subset.trans (Library.references_subset_items hmem) (hv _ rfl)
  refine (h doc item hdoc hvalue).bind fun found _ => ?_
  cases found with
  | error e => exact .pure trivial
  | ok found => exact .pure trivial

theorem settles_body (hdoc : S.HasDoc doc) {v : Option Value} (hv : ∀ w, v = some w → S.HasValue w) :
    Settles S.HasLibrary (body resolve' doc v) (body resolve doc v) fun _ => True := by
  cases v with
  | none => exact .pure trivial
  | some v =>
    refine (h doc v hdoc (hv v rfl)).bind fun found _ => ?_
    cases found with
    | error e => exact .pure trivial
    | ok found => exact .pure trivial

/-- What goes on from the mapping behind references has one outcome, if it has one for each mapping within the
scope. -/
theorem settles_members {β : Type} {k' : DocPath → Members Value → StateT Library SetM (Option β)}
    {k : DocPath → Members Value → StateM Library (Option β)}
    (hk : ∀ d ms, S.HasDoc d → S.HasValue (.object ms) →
      Settles S.HasLibrary (k' d ms) (k d ms) fun _ => True)
    (hdoc : S.HasDoc doc) (hv : S.HasValue v) :
    Settles S.HasLibrary
      (do
        match ← resolve' doc v with
        | .error _ => return none
        | .ok (doc, v) =>
          match v.members? with
          | none => return none
          | some ms => k' doc ms)
      (do
        match ← resolve doc v with
        | .error _ => return none
        | .ok (doc, v) =>
          match v.members? with
          | none => return none
          | some ms => k doc ms)
      fun _ => True := by
  refine (h doc v hdoc hv).bind fun found hfound => ?_
  cases found with
  | error e => exact .pure trivial
  | ok found =>
    obtain ⟨d, w⟩ := found
    obtain ⟨hd, hw⟩ := hfound d w rfl
    cases w with
    | object ms => exact hk d ms hd hw
    | _ => exact .pure trivial

theorem settles_operation (hdoc : S.HasDoc doc) (hms : S.HasValue (.object ms)) (method : Method) :
    Settles S.HasLibrary (operation resolve' doc ms method) (operation resolve doc ms method)
      fun _ => True := by
  unfold operation
  cases hv : ms.get? method.key with
  | none => exact .pure trivial
  | some v =>
    refine settles_members h (fun d block hd hblock => ?_) hdoc (hasValue_member hms hv)
    refine (settles_parameters h hd fun w => hasValue_member hblock).bind fun own _ => ?_
    exact (settles_body h hd fun w => hasValue_member hblock).bind fun body _ => .pure trivial

theorem settles_pathDocument (hdoc : S.HasDoc doc) (path : String) (hv : S.HasValue v) :
    Settles S.HasLibrary (pathDocument resolve' doc path v) (pathDocument resolve doc path v)
      fun _ => True := by
  refine settles_members h (fun d ms hd hms => ?_) hdoc hv
  refine (settles_parameters h hd fun w => hasValue_member hms).bind fun shared _ => ?_
  exact (Settles.mapM fun method _ => settles_operation h hd hms method).bind fun operations _ =>
    .pure trivial

theorem settles_documents (hdoc : S.HasDoc doc) (hv : ∀ e ∈ ms, S.HasValue e.2) :
    Settles S.HasLibrary (documents resolve' doc ms) (documents resolve doc ms) fun _ => True := by
  unfold documents
  refine (Settles.mapM fun e he => ?_).bind fun found _ => .pure trivial
  exact settles_pathDocument h hdoc e.1 (hv e he)

end Load

theorem hasValue_entries {index : Value} (hindex : S.HasValue index)
    (hentries : entries? index = some ms) : ∀ e ∈ ms, S.HasValue e.2 := by
  cases index with
  | object members =>
    have hwhole {entries : Members Value} (hv : S.HasValue (.object entries)) :
        ∀ e ∈ entries, S.HasValue e.2 :=
      fun e he => List.Subset.trans (Library.references_subset_members he) hv
    have hms := Option.some.inj hentries
    simp only at hms
    split at hms
    · next paths hpaths =>
      obtain rfl := hms
      exact hwhole (hasValue_member hindex hpaths)
    · obtain rfl := hms
      exact hwhole hindex
  | _ => cases hentries

theorem resolves_follows {s : Source} (hcover : S.Covers s.tree) (hlimit : S.limit ≤ s.limit) :
    Resolves S s.follows s.resolve := by
  intro doc v hdoc hv
  have hsteps : S.limit ≤ ([] : List String).length + s.limit := by simpa using hlimit
  have hchain {l : Library} (hl : S.HasLibrary l) :=
    Scope.follows_iff hcover List.nodup_nil (by simp) hsteps hl hdoc hv
  exact
    { run := fun l hl => Set.ext (hchain hl).1
      good := fun l hl => (hchain hl).2.1
      gives := fun l hl => (hchain hl).2.2 }

/-- There is a scope that a load stays in from its beginning. -/
theorem Load.exists_scope (t : FileTree) (path : String) {index : Value} {entries : Members Value}
    (hentries : entries? index = some entries) :
    let load := Load.start t path index entries
    ∃ S : Scope, S.HasLibrary load.library ∧ S.HasDoc load.doc ∧ (∀ e ∈ entries, S.HasValue e.2) ∧
      Resolves S load.source.follows load.source.resolve := by
  intro load
  obtain ⟨hcover, hdoc, hl⟩ := Scope.covers_scope t load.library load.doc index
  have hvalue := Scope.hasValue_scope t load.library load.doc index (.inl rfl)
  exact ⟨_, hl, hdoc, hasValue_entries hvalue hentries, resolves_follows hcover (Nat.le_refl _)⟩

/-- The load of an index ends, however its documents refer to each other, and has one outcome: the one that
is computed within the limit. -/
theorem run_ofTextWith_follows (t : FileTree) (path text : String) :
    (ofTextWith Source.follows t path text).run = {ofText t path text} := by
  unfold ofText ofTextWith
  cases hindex : Document.parse? text with
  | none => rfl
  | some index =>
    simp only
    cases hentries : entries? index with
    | none => rfl
    | some entries =>
      simp only
      obtain ⟨S, hl, hdoc, hvalues, hresolves⟩ := Load.exists_scope t path hentries
      have hrun := (settles_documents hresolves hdoc hvalues).run _ hl
      set load := Load.start t path index entries
      show (⋃ r ∈ ((documents load.source.follows load.doc entries).run load.library).run, {r.1}) = _
      rw [hrun, Set.biUnion_singleton]
      rfl

end ApiToolbox.Index
