import ApiToolbox.Proofs.Json.Members
import ApiToolbox.Proofs.Reference
import ApiToolbox.Proofs.Reference.Length
import Mathlib.Data.List.MinMax

/-! What a chain of references comes across is within the scope that it begins with. Its references are
spelled there, and its documents are named there or lie in the tree, so the labels of its targets are of
bounded length. -/

namespace ApiToolbox

open Json (Value)

namespace Library

/-! ### References inside values -/

theorem references_subset_items {vs : List Value} {w : Value} (h : w ∈ vs) :
    references w ⊆ references (.array vs) := by
  rw [references]
  induction vs with
  | nil => cases h
  | cons v rest ih =>
    rw [referencesInItems]
    rcases List.mem_cons.mp h with rfl | h
    · exact List.subset_append_left _ _
    · exact List.subset_append_of_subset_right _ (ih h)

theorem references_subset_members {ms : Members Value} {m : String × Value} (h : m ∈ ms) :
    references m.2 ⊆ references (.object ms) := by
  rw [references]
  refine List.subset_append_of_subset_right _ ?_
  induction ms with
  | nil => cases h
  | cons n rest ih =>
    rw [referencesInMembers]
    rcases List.mem_cons.mp h with rfl | h
    · exact List.subset_append_left _ _
    · exact List.subset_append_of_subset_right _ (ih h)

theorem mem_references {v : Value} {r : String} (h : v.reference? = some r) : r ∈ references v := by
  cases v with
  | object ms =>
    rw [references, h]
    exact List.mem_append_left _ (by simp)
  | _ => cases h

theorem references_subset_child {v w : Value} {piece : List Char}
    (h : Json.Pointer.child? v piece = some w) : references w ⊆ references v := by
  cases v with
  | object ms => exact references_subset_members (Members.mem_of_get? h)
  | array vs =>
    obtain ⟨i, -, hi⟩ := Option.bind_eq_some_iff.mp h
    exact references_subset_items (List.mem_of_getElem? hi)
  | _ => cases h

theorem references_subset_walk {v w : Value} {pieces : List (List Char)}
    (h : Json.Pointer.walk? v pieces = some w) : references w ⊆ references v := by
  induction pieces generalizing v with
  | nil =>
    obtain rfl := Option.some.inj h
    exact List.Subset.refl _
  | cons piece rest ih =>
    obtain ⟨u, hu, hw⟩ := Option.bind_eq_some_iff.mp h
    exact List.Subset.trans (ih hw) (references_subset_child hu)

theorem references_subset_find {v w : Value} {pointer : String}
    (h : Json.Pointer.find? v pointer = some w) : references w ⊆ references v := by
  unfold Json.Pointer.find? at h
  split at h
  · obtain rfl := Option.some.inj h
    exact List.Subset.refl _
  · exact references_subset_walk h
  · cases h

theorem mem_treeDocuments {t : FileTree} {path text : String} {v : Value}
    (htext : t.read path = .ok text) (hv : Document.parse? text = some v) : v ∈ treeDocuments t := by
  obtain ⟨place, content, hlocate, hdecode⟩ := FileTree.file_of_read htext
  rcases FileTree.mem_entries_of_locate hlocate with hroot | hmem
  · cases hroot
  · obtain ⟨cs, hcs, rfl⟩ := Option.map_eq_some_iff.mp hdecode
    exact List.mem_filterMap.mpr ⟨_, hmem, by simp [hcs, hv]⟩

/-! ### Scopes -/

namespace Scope

variable {t : FileTree} {S : Scope} {l l' : Library} {d doc : DocPath} {v w : Value} {r : String}

/-- The length of what a reference adds to a path. -/
def stride (S : Scope) : Nat := S.length + 2

/-- The path can be within the scope for all that is written in it. -/
def Spells (S : Scope) (d : DocPath) : Prop := DocPath.Paced S.stride d.text.toList

/-- A document that a chain can be in. -/
structure HasDoc (S : Scope) (d : DocPath) : Prop where
  spells : S.Spells d
  depth : d.key.2.length ≤ S.depth

/-- All references in the value are spelled in the scope. -/
def HasValue (S : Scope) (v : Value) : Prop := references v ⊆ S.spelled

/-- All that has been loaded is within the scope. -/
def HasLibrary (S : Scope) (l : Library) : Prop :=
  ∀ e ∈ l.documents, e.1.2.length ≤ S.depth ∧ S.HasValue e.2

/-- The scope is wide enough for all files of a tree, and for all references that it spells. -/
structure Covers (S : Scope) (t : FileTree) : Prop where
  length : ∀ r ∈ S.spelled, r.length ≤ S.length
  named : ∀ r ∈ S.spelled, ∀ target, Target.ofReference t ⟨""⟩ r = .ok target →
    target.doc.text.length ≤ S.length
  place : ∀ path r, t.locate path = .ok r → (FileTree.pathOf r.1).length ≤ S.length ∧
    (DocPath.mk (FileTree.pathOf r.1)).key.2.length ≤ S.depth
  document : ∀ v ∈ treeDocuments t, S.HasValue v

/-- The labels of targets within the scope are not longer. -/
def labelLength (S : Scope) : Nat := (S.depth + 2) * (S.length + 2)

theorem limit_eq (S : Scope) : S.limit = 2 ^ (21 * S.labelLength) + 1 := rfl

theorem spells_of_length_le (h : d.text.length ≤ S.length) : S.Spells d := by
  refine DocPath.paced_of_length_le ?_
  rw [String.length_toList, stride]
  omega

/-- A path that leads somewhere has the length of a place, any other stays as it is spelled. -/
theorem spells_locate (hcover : S.Covers t) {path : String}
    (h : DocPath.Paced S.stride path.toList) : S.Spells (.locate t path) := by
  unfold DocPath.locate FileTree.canonical
  split
  · next hlocate => exact spells_of_length_le (hcover.place path _ hlocate).1
  · exact h

theorem depth_locate (hcover : S.Covers t) {path text : String}
    (h : t.read (DocPath.locate t path).text = .ok text) :
    (DocPath.locate t path).key.2.length ≤ S.depth := by
  unfold DocPath.locate FileTree.canonical at h ⊢
  split at h
  · next hlocate => exact (hcover.place path _ hlocate).2
  · next e hlocate =>
    obtain ⟨place, content, hfile, -⟩ := FileTree.file_of_read h
    rw [hlocate] at hfile
    cases hfile

end Scope
end Library

namespace Target

variable {t : FileTree} {base d : DocPath} {part : String}

/-- The parts of a reference in front of the first `#` and behind it. -/
def cut (reference : String) : List Char × List Char :=
  match Text.cutAt? '#' reference.toList with
  | some (part, f) => (part, f)
  | none => (reference.toList, [])

theorem ofReference_eq (t : FileTree) (base : DocPath) (reference : String) :
    ofReference t base reference = (document t base (String.ofList (cut reference).1) >>= fun doc =>
      if (cut reference).2 = [] then .ok ⟨doc, none⟩
      else if (cut reference).2.head? = some '/' then .ok ⟨doc, some (String.ofList (cut reference).2)⟩
      else .error (.badFragment reference)) := rfl

theorem length_cut (reference : String) : (cut reference).1.length ≤ reference.length ∧
    ((cut reference).2 ≠ [] → (cut reference).2.length + 1 ≤ reference.length) := by
  unfold cut
  split
  · next part f hcut =>
    have hlength := congrArg List.length (Text.eq_of_cutAt? hcut)
    rw [String.length_toList, List.length_append, List.length_cons] at hlength
    constructor
    · simp only
      omega
    · intro _
      simp only
      omega
  · simp [String.length_toList]

theorem document_of_ofReference {r : String} {target : Target}
    (h : ofReference t base r = .ok target) :
    document t base (String.ofList (cut r).1) = .ok target.doc ∧
      ∀ p ∈ target.pointer, p.length + 1 ≤ r.length := by
  rw [ofReference_eq] at h
  obtain ⟨d, hd, h⟩ := bind_eq_ok_iff.mp h
  split at h
  · obtain rfl := Except.ok.inj h
    exact ⟨hd, by simp⟩
  · next hfragment =>
    split at h
    · obtain rfl := Except.ok.inj h
      refine ⟨hd, fun p hp => ?_⟩
      obtain rfl := Option.some.inj hp
      rw [String.length_ofList]
      exact (length_cut r).2 hfragment
    · cases h

/-- The document is the one that the reference is in, or does not depend on it, or is found beside it. -/
theorem document_cases (h : document t base part = .ok d) :
    d = base ∨ ((∃ path, d = .locate t path) ∧ ∀ other, document t other part = .ok d) ∨
      d = .locate t (DocPath.join base.parent part) := by
  unfold document at h
  split at h
  · exact .inl (Except.ok.inj h).symm
  next hpart =>
  split at h
  · cases h
  next hremote =>
  split at h
  · next hfile =>
    have hsame (other : DocPath) : document t other part = document t base part := by
      simp only [document, if_neg hpart, if_neg hremote, if_pos hfile]
    split at h
    · cases h
    next hurl =>
    split at h
    · next bytes hbytes =>
      refine .inr (.inl ⟨⟨_, (Except.ok.inj h).symm⟩, fun other => ?_⟩)
      rw [hsame, ← h]
      simp only [document, if_neg hpart, if_neg hremote, if_pos hfile, hurl, hbytes]
    · cases h
  · exact .inr (.inr (Except.ok.inj h).symm)

end Target

namespace Library
namespace Scope

variable {t : FileTree} {S : Scope} {l l' : Library} {d doc : DocPath} {v w : Value} {r : String}
  {target : Target}

/-! ### One reference -/

/-- A target that a reference within the scope can have. -/
structure HasTarget (S : Scope) (t : FileTree) (target : Target) : Prop where
  spells : S.Spells target.doc
  depth : ∀ text, t.read target.doc.text = .ok text → target.doc.key.2.length ≤ S.depth
  pointer : ∀ p ∈ target.pointer, p.length + 1 ≤ S.length

theorem hasTarget_of_ofReference (hcover : S.Covers t) (hdoc : S.HasDoc doc) (hr : r ∈ S.spelled)
    (h : Target.ofReference t doc r = .ok target) : S.HasTarget t target := by
  have hlength := hcover.length r hr
  obtain ⟨hdocument, hfragment⟩ := Target.document_of_ofReference h
  have hpointer : ∀ p ∈ target.pointer, p.length + 1 ≤ S.length :=
    fun p hp => (hfragment p hp).trans hlength
  rcases Target.document_cases hdocument with hbase | ⟨⟨path, hpath⟩, hsame⟩ | hbeside
  · rw [← hbase] at hdoc
    exact ⟨hdoc.spells, fun _ _ => hdoc.depth, hpointer⟩
  · refine ⟨spells_of_length_le (hcover.named r hr target ?_), fun text => ?_, hpointer⟩
    · rw [← h, Target.ofReference_eq, Target.ofReference_eq, hsame, hdocument]
    · rw [hpath]
      exact depth_locate hcover
  · have hstretch : (String.ofList (Target.cut r).1).length + 2 ≤ S.stride := by
      have hpart := (Target.length_cut r).1
      rw [String.length_ofList, stride]
      omega
    refine ⟨?_, fun text => ?_, hpointer⟩
    · rw [hbeside]
      exact spells_locate hcover (hdoc.spells.join hstretch)
    · rw [hbeside]
      exact depth_locate hcover

theorem hasDoc_of_load (hcover : S.Covers t) (hl : S.HasLibrary l) (htarget : S.HasTarget t target)
    (h : l.load t target.doc = .ok (v, l')) :
    S.HasDoc target.doc ∧ S.HasValue v ∧ S.HasLibrary l' := by
  rcases load_eq_ok_iff.mp h with ⟨hv, rfl⟩ | ⟨-, ⟨text, htext, hv⟩, rfl⟩
  · obtain ⟨e, he, rfl⟩ := Option.map_eq_some_iff.mp hv
    have hkey : e.1 = target.doc.key := by simpa using List.find?_some he
    obtain ⟨hdepth, hvalue⟩ := hl e (List.mem_of_find?_eq_some he)
    exact ⟨⟨htarget.spells, hkey ▸ hdepth⟩, hvalue, hl⟩
  · have hvalue := hcover.document v (mem_treeDocuments htext hv)
    have hdepth := htarget.depth text htext
    refine ⟨⟨htarget.spells, hdepth⟩, hvalue, fun e he => ?_⟩
    rcases List.mem_cons.mp he with rfl | he
    · exact ⟨hdepth, hvalue⟩
    · exact hl e (List.mem_of_mem_filter he)

theorem hasLibrary_fetch (hcover : S.Covers t) (hl : S.HasLibrary l)
    (htarget : S.HasTarget t target) : S.HasLibrary (l.fetch t r target).2 ∧
      ∀ w, (l.fetch t r target).1 = .ok w → S.HasDoc target.doc ∧ S.HasValue w := by
  unfold fetch
  split
  · exact ⟨hl, fun w hw => by cases hw⟩
  next v l' hload =>
  obtain ⟨hdoc, hvalue, hl'⟩ := hasDoc_of_load hcover hl htarget hload
  split
  · refine ⟨hl', fun w hw => ?_⟩
    obtain rfl := Except.ok.inj hw
    exact ⟨hdoc, hvalue⟩
  split
  · next u hu =>
    refine ⟨hl', fun w hw => ?_⟩
    obtain rfl := Except.ok.inj hw
    exact ⟨hdoc, List.Subset.trans (references_subset_find hu) hvalue⟩
  · exact ⟨hl', fun w hw => by cases hw⟩

theorem length_label (htarget : S.HasTarget t target) (hdoc : S.HasDoc target.doc) :
    target.label.length ≤ S.labelLength := by
  have hpath := hdoc.spells.length_le hdoc.depth
  have hone : S.labelLength = (S.depth + 1) * S.stride + S.stride := by
    rw [labelLength, stride]
    ring
  unfold Target.label
  split
  · next p hp =>
    have hpointer := htarget.pointer p hp
    simp only [String.length_append, stride] at hpath hone ⊢
    have hmark : "#".length = 1 := rfl
    omega
  · omega

/-! ### The scope of a beginning -/

theorem hasValue_scope (t : FileTree) (l : Library) (doc : DocPath) (start : Value) {v : Value}
    (hv : v = start ∨ v ∈ treeDocuments t ∨ ∃ key, (key, v) ∈ l.documents) :
    (scope t l doc start).HasValue v := by
  intro r hr
  refine List.mem_flatMap.mpr ⟨v, ?_, hr⟩
  rcases hv with rfl | hv | ⟨key, hv⟩
  · exact List.mem_cons_self
  · exact List.mem_cons_of_mem _ (List.mem_append_left _ hv)
  · exact List.mem_cons_of_mem _ (List.mem_append_right _ (List.mem_map.mpr ⟨_, hv, rfl⟩))

/-- A chain is within the scope that it begins with. -/
theorem covers_scope (t : FileTree) (l : Library) (doc : DocPath) (start : Value) :
    (scope t l doc start).Covers t ∧ (scope t l doc start).HasDoc doc ∧
      (scope t l doc start).HasLibrary l := by
  have hvalue {v : Value} := hasValue_scope t l doc start (v := v)
  set S := scope t l doc start with hS
  unfold scope at hS
  extract_lets documents spelled named places docs at hS
  have hlength (n : Nat) (hn : n ∈ docs.map (·.text.length) ++ spelled.map (·.length)) :
      n ≤ S.length := by
    rw [hS]
    exact List.le_max_of_le' 0 hn (Nat.le_refl n)
  have hdepth (n : Nat) (hn : n ∈ docs.map (·.key.2.length) ++ l.documents.map (·.1.2.length)) :
      n ≤ S.depth := by
    rw [hS]
    exact List.le_max_of_le' 0 hn (Nat.le_refl n)
  have hdocs (d : DocPath) (hd : d ∈ docs) : d.text.length ≤ S.length ∧ d.key.2.length ≤ S.depth :=
    ⟨hlength _ (List.mem_append_left _ (List.mem_map.mpr ⟨d, hd, rfl⟩)),
      hdepth _ (List.mem_append_left _ (List.mem_map.mpr ⟨d, hd, rfl⟩))⟩
  have hspelled : S.spelled = spelled := by rw [hS]
  refine ⟨⟨?length, ?named, ?place, ?document⟩, ?doc, ?library⟩
  case length =>
    intro r hr
    exact hlength _ (List.mem_append_right _ (List.mem_map.mpr ⟨r, hspelled ▸ hr, rfl⟩))
  case named =>
    intro r hr target htarget
    refine (hdocs _ (List.mem_cons_of_mem _ (List.mem_cons_of_mem _ (List.mem_append_left _ ?_)))).1
    exact List.mem_filterMap.mpr ⟨r, hspelled ▸ hr, by simp [htarget, Except.toOption]⟩
  case place =>
    intro path r hlocate
    refine hdocs ⟨FileTree.pathOf r.1⟩ (List.mem_cons_of_mem _ ?_)
    rcases FileTree.mem_entries_of_locate hlocate with rfl | hmem
    · exact List.mem_cons_self
    · exact List.mem_cons_of_mem _ (List.mem_append_right _ (List.mem_map.mpr ⟨r, hmem, rfl⟩))
  case document => exact fun v hv => hvalue (.inr (.inl hv))
  case doc =>
    obtain ⟨htext, hkey⟩ := hdocs doc List.mem_cons_self
    exact ⟨spells_of_length_le htext, hkey⟩
  case library =>
    intro e he
    exact ⟨hdepth _ (List.mem_append_right _ (List.mem_map.mpr ⟨e, he, rfl⟩)),
      hvalue (.inr (.inr ⟨e.1, he⟩))⟩

end Scope
end Library
end ApiToolbox
