import ApiToolbox.Proofs.Index
import ApiToolbox.Proofs.Index.Termination

/-! What an index declares, by rules. References are followed one after the other, in the order in which
an index is written: a mapping, the parameters in its list, then what is under its methods. Each is
followed with the library that the one before has left. The load finds what the rules say. -/

namespace ApiToolbox.Index

open Json (Value)
open Library (Follows)

/-- Items taken one after the other, each with the library that the one in front leaves. What some of them
give is kept in their order. -/
inductive InTurn {α β : Type} (R : Library → α → Option β × Library → Prop) :
    Library → List α → List β × Library → Prop where
  | nil {l : Library} : InTurn R l [] ([], l)
  | cons {l l₁ l₂ : Library} {a : α} {as : List α} {o : Option β} {bs : List β}
      (h : R l a (o, l₁)) (hrest : InTurn R l₁ as (bs, l₂)) :
      InTurn R l (a :: as) (o.toList ++ bs, l₂)

/-- The mapping that a value in a document leads to, and the document that it is in. -/
inductive LeadsTo (t : FileTree) (doc : DocPath) (l : Library) (v : Value) :
    Option (DocPath × Members Value) × Library → Prop where
  | mapping {d : DocPath} {ms : Members Value} {l' : Library}
      (h : Follows t [] l doc v (.ok (d, .object ms), l')) : LeadsTo t doc l v (some (d, ms), l')
  | other {d : DocPath} {w : Value} {l' : Library} (h : Follows t [] l doc v (.ok (d, w), l'))
      (hw : w.members? = none) : LeadsTo t doc l v (none, l')
  | nowhere {e : ReferenceError} {l' : Library} (h : Follows t [] l doc v (.error e, l')) :
      LeadsTo t doc l v (none, l')

/-- The parameter that an item of a list declares, there or where it leads to. -/
inductive Declares (t : FileTree) (doc : DocPath) (l : Library) (item : Value) :
    Option Parameter × Library → Prop where
  | declared {d : DocPath} {v : Value} {l' : Library}
      (h : Follows t [] l doc item (.ok (d, v), l')) :
      Declares t doc l item (Parameter.ofValue? v, l')
  | nowhere {e : ReferenceError} {l' : Library} (h : Follows t [] l doc item (.error e, l')) :
      Declares t doc l item (none, l')

/-- The items that a mapping lists as parameters; none, if it has no list of them. -/
def listed (ms : Members Value) : List Value := ((ms.get? "parameters").bind Value.items?).getD []

/-- The entry of a path: the mapping that its value leads to, and the parameters listed there. -/
inductive HasEntry (t : FileTree) (doc : DocPath) (l : Library) (v : Value) :
    Option Entry × Library → Prop where
  | none {l' : Library} (h : LeadsTo t doc l v (none, l')) : HasEntry t doc l v (none, l')
  | entry {d : DocPath} {ms : Members Value} {shared : List Parameter} {l₁ l₂ : Library}
      (h : LeadsTo t doc l v (some (d, ms), l₁))
      (hshared : InTurn (Declares t d) l₁ (listed ms) (shared, l₂)) :
      HasEntry t doc l v (some ⟨d, ms, shared⟩, l₂)

/-- The block of a method: the mapping that its value leads to, the parameters listed there, and the mapping
that its body leads to. -/
inductive HasBlock (t : FileTree) (doc : DocPath) (l : Library) (v : Value) :
    Option Block × Library → Prop where
  | none {l' : Library} (h : LeadsTo t doc l v (none, l')) : HasBlock t doc l v (none, l')
  | bare {d : DocPath} {ms : Members Value} {own : List Parameter} {l₁ l₂ : Library}
      (h : LeadsTo t doc l v (some (d, ms), l₁))
      (hown : InTurn (Declares t d) l₁ (listed ms) (own, l₂))
      (hbody : ms.get? "requestBody" = none) : HasBlock t doc l v (some ⟨ms, own, none⟩, l₂)
  | block {d : DocPath} {ms : Members Value} {own : List Parameter} {l₁ l₂ l₃ : Library} {w : Value}
      {body : Option (DocPath × Members Value)} (h : LeadsTo t doc l v (some (d, ms), l₁))
      (hown : InTurn (Declares t d) l₁ (listed ms) (own, l₂))
      (hw : ms.get? "requestBody" = some w) (hbody : LeadsTo t d l₂ w (body, l₃)) :
      HasBlock t doc l v (some ⟨ms, own, body.map (·.2)⟩, l₃)

/-- The operation that the mapping of a path has for a method. -/
inductive HasOperation (t : FileTree) (doc : DocPath) (ms : Members Value) (l : Library)
    (method : Method) : Option OperationDecl × Library → Prop where
  | none (h : ms.get? method.key = none) : HasOperation t doc ms l method (none, l)
  | block {v : Value} {b : Option Block} {l' : Library} (hv : ms.get? method.key = some v)
      (h : HasBlock t doc l v (b, l')) : HasOperation t doc ms l method (b.map (·.decl method), l')

/-- The document of a path: its entry, with an operation for each method that has one. -/
inductive HasDocument (t : FileTree) (doc : DocPath) (l : Library) (m : String × Value) :
    Option PathDocument × Library → Prop where
  | none {l' : Library} (h : HasEntry t doc l m.2 (none, l')) : HasDocument t doc l m (none, l')
  | document {e : Entry} {operations : List OperationDecl} {l₁ l₂ : Library}
      (h : HasEntry t doc l m.2 (some e, l₁))
      (hoperations : InTurn (HasOperation t e.doc e.members) l₁ [.get, .post, .put, .patch, .delete]
        (operations, l₂)) :
      HasDocument t doc l m (some ⟨m.1, e.shared, operations⟩, l₂)

/-- What a load finds under a path and a method. The path is a key whose value leads to a mapping, once all
entries in front have been read, and the method is a key of that mapping whose value leads to a mapping in
turn, once the methods in front have been read. -/
inductive Load.Finds (load : Load) (path : String) (method : Method) : Entry → Block → Prop where
  | intro {v w : Value} {docs : List PathDocument} {operations : List OperationDecl}
      {l₁ l₂ l₃ l₄ : Library} {e : Entry} {b : Block} (hv : load.entries.get? path = some v)
      (hfront : InTurn (HasDocument load.source.tree load.doc) load.library
        (load.entries.takeWhile (·.1 ≠ path)) (docs, l₁))
      (hentry : HasEntry load.source.tree load.doc l₁ v (some e, l₂))
      (hw : e.members.get? method.key = some w)
      (hbefore : InTurn (HasOperation load.source.tree e.doc e.members) l₂
        ([.get, .post, .put, .patch, .delete].takeWhile (· ≠ method)) (operations, l₃))
      (hblock : HasBlock load.source.tree e.doc l₃ w (some b, l₄)) : load.Finds path method e b

/-! ### The load finds what the rules say -/

/-- Follow references from a value, for as many steps as that chain of references may take. -/
def unlimited (t : FileTree) : Resolver (StateM Library) := fun doc v l => Library.resolve t l doc v

section Runs

variable {t : FileTree} {doc : DocPath} {l : Library} {v : Value} {ms : Members Value}

theorem follows_iff {found : Except ReferenceError (DocPath × Value) × Library} :
    Follows t [] l doc v found ↔ found = (unlimited t doc v).run l :=
  Library.follows_iff_eq_resolve t l doc v found

theorem inTurn_iff {α β : Type} {R : Library → α → Option β × Library → Prop}
    {f : α → StateM Library (Option β)} (h : ∀ l a r, R l a r ↔ r = (f a).run l) {as : List α}
    {r : List β × Library} : InTurn R l as r ↔ r = (collect f as).run l := by
  constructor
  · intro hturn
    induction hturn with
    | nil => rfl
    | cons ha _ ih => rw [run_collect_cons, ← (h _ _ _).mp ha, ← ih]
  · rintro rfl
    induction as generalizing l with
    | nil => exact .nil
    | cons a rest ih =>
      rw [run_collect_cons]
      exact .cons ((h _ _ _).mpr rfl) ih

theorem leadsTo_iff {r : Option (DocPath × Members Value) × Library} :
    LeadsTo t doc l v r ↔ r = (mapping (unlimited t) doc v).run l := by
  rw [mapping, eq_run_bind_iff]
  simp only [← follows_iff]
  constructor
  · rintro (h | ⟨h, hw⟩ | h)
    · exact ⟨_, _, h, rfl⟩
    · exact ⟨_, _, h, by simp only [hw]; rfl⟩
    · exact ⟨_, _, h, rfl⟩
  · rintro ⟨_ | ⟨d, w⟩, l', h, rfl⟩
    · exact .nowhere h
    · cases w with
      | object ms => exact .mapping h
      | _ => exact .other h rfl

theorem declares_iff {r : Option Parameter × Library} :
    Declares t doc l v r ↔ r = (declared (unlimited t) doc v).run l := by
  rw [declared, eq_run_bind_iff]
  simp only [← follows_iff]
  constructor
  · rintro (h | h)
    · exact ⟨_, _, h, rfl⟩
    · exact ⟨_, _, h, rfl⟩
  · rintro ⟨_ | ⟨d, w⟩, l', h, rfl⟩
    · exact .nowhere h
    · exact .declared h

theorem inTurn_declares_iff {r : List Parameter × Library} :
    InTurn (Declares t doc) l (listed ms) r ↔
      r = (parameters (unlimited t) doc (ms.get? "parameters")).run l := by
  rw [parameters_eq]
  exact inTurn_iff (f := declared (unlimited t) doc) fun _ _ _ => declares_iff

theorem hasEntry_iff {r : Option Entry × Library} :
    HasEntry t doc l v r ↔ r = (entry (unlimited t) doc v).run l := by
  rw [entry, eq_run_bind_iff]
  simp only [← leadsTo_iff]
  constructor
  · rintro (h | ⟨h, hshared⟩)
    · exact ⟨_, _, h, rfl⟩
    · refine ⟨_, _, h, ?_⟩
      rw [eq_run_bind_iff]
      exact ⟨_, _, inTurn_declares_iff.mp hshared, rfl⟩
  · rintro ⟨_ | ⟨d, ms⟩, l', h, rfl⟩
    · exact .none h
    · exact .entry h (inTurn_declares_iff.mpr rfl)

theorem hasBlock_iff {r : Option Block × Library} :
    HasBlock t doc l v r ↔ r = (block (unlimited t) doc v).run l := by
  rw [block, eq_run_bind_iff]
  simp only [← leadsTo_iff]
  constructor
  · rintro (h | ⟨h, hown, hbody⟩ | ⟨h, hown, hw, hbody⟩)
    · exact ⟨_, _, h, rfl⟩
    · refine ⟨_, _, h, ?_⟩
      simp only [eq_run_bind_iff, hbody]
      exact ⟨_, _, inTurn_declares_iff.mp hown, rfl⟩
    · refine ⟨_, _, h, ?_⟩
      simp only [eq_run_bind_iff, hw]
      exact ⟨_, _, inTurn_declares_iff.mp hown, _, _, leadsTo_iff.mp hbody, rfl⟩
  · rintro ⟨_ | ⟨d, ms⟩, l', h, hr⟩
    · obtain rfl := hr
      exact .none h
    · obtain ⟨own, l₂, hown, hr⟩ := eq_run_bind_iff.mp hr
      have hown := inTurn_declares_iff.mpr hown
      cases hw : ms.get? "requestBody" with
      | none =>
        simp only [hw] at hr
        obtain rfl := hr
        exact .bare h hown hw
      | some w =>
        simp only [hw] at hr
        obtain ⟨body, l₃, hbody, rfl⟩ := eq_run_bind_iff.mp hr
        exact .block h hown hw (leadsTo_iff.mpr hbody)

theorem hasOperation_iff {method : Method} {r : Option OperationDecl × Library} :
    HasOperation t doc ms l method r ↔ r = (operation (unlimited t) doc ms method).run l := by
  rw [run_operation]
  constructor
  · rintro (h | ⟨hv, h⟩)
    · rw [h]
    · simp only [hv, ← hasBlock_iff.mp h]
  · rintro rfl
    cases hv : ms.get? method.key with
    | none => exact .none hv
    | some v => exact .block hv (hasBlock_iff.mpr rfl)

theorem inTurn_hasOperation_iff {methods : List Method} {r : List OperationDecl × Library} :
    InTurn (HasOperation t doc ms) l methods r ↔
      r = (collect (operation (unlimited t) doc ms) methods).run l :=
  inTurn_iff (f := operation (unlimited t) doc ms) fun _ _ _ => hasOperation_iff

theorem hasDocument_iff {m : String × Value} {r : Option PathDocument × Library} :
    HasDocument t doc l m r ↔ r = (pathDocument (unlimited t) doc m.1 m.2).run l := by
  rw [pathDocument_eq, eq_run_bind_iff]
  simp only [← hasEntry_iff]
  constructor
  · rintro (h | ⟨h, hoperations⟩)
    · exact ⟨_, _, h, rfl⟩
    · refine ⟨_, _, h, ?_⟩
      rw [eq_run_bind_iff]
      exact ⟨_, _, inTurn_hasOperation_iff.mp hoperations, rfl⟩
  · rintro ⟨_ | e, l', h, rfl⟩
    · exact .none h
    · exact .document h (inTurn_hasOperation_iff.mpr rfl)

theorem inTurn_hasDocument_iff {entries : Members Value} {r : List PathDocument × Library} :
    InTurn (HasDocument t doc) l entries r ↔
      r = (documents (unlimited t) doc entries).run l := by
  rw [documents_eq]
  exact inTurn_iff (f := fun m : String × Value => pathDocument (unlimited t) doc m.1 m.2) fun _ _ _ =>
    hasDocument_iff

theorem resolves_unlimited {S : Library.Scope} {s : Source} (h : Resolves S s.follows s.resolve) :
    Resolves S s.follows (unlimited s.tree) := by
  intro doc v hdoc hv
  obtain ⟨hrun, hgood, hgives⟩ := h doc v hdoc hv
  -- What is computed within the limit is an outcome by the rules, and these have one outcome only.
  have hsame {l : Library} (hl : S.HasLibrary l) :
      (s.resolve doc v).run l = (unlimited s.tree doc v).run l := by
    have hmem : (s.resolve doc v).run l ∈ ((s.follows doc v).run l).run := by
      rw [hrun l hl]
      exact Set.mem_singleton _
    exact follows_iff.mp hmem
  exact
    { run := fun l hl => by rw [hrun l hl, hsame hl]
      good := fun l hl => hsame hl ▸ hgood l hl
      gives := fun l hl => hsame hl ▸ hgives l hl }

end Runs

/-- The documents of an index are those that its entries have by the rules. -/
theorem inTurn_documents_start (t : FileTree) (path : String) {index : Value}
    {entries : Members Value} (hentries : entries? index = some entries) :
    let load := Load.start t path index entries
    ∃ l, InTurn (HasDocument t load.doc) load.library entries (load.documents, l) := by
  intro load
  obtain ⟨S, hl, hdoc, hvalues, hresolves⟩ := Load.exists_scope t path hentries
  -- With the limit of the load and without it, the load has the one outcome of the rules.
  have hlimited := (settles_documents hresolves hdoc hvalues).run _ hl
  have hunlimited := (settles_documents (resolves_unlimited hresolves) hdoc hvalues).run _ hl
  have hsame := Set.singleton_injective (hlimited.symm.trans hunlimited)
  exact ⟨_, inTurn_hasDocument_iff.mpr hsame⟩

namespace Load

variable {load : Load} {path : String} {method : Method} {e : Entry} {b : Block}
  {docs : List PathDocument} {l : Library}

/-- What is found under a path and a method, computed. -/
def find? (load : Load) (path : String) (method : Method) : Option (Entry × Block) := do
  let resolve := unlimited load.source.tree
  let v ← load.entries.get? path
  let front := load.entries.takeWhile (·.1 ≠ path)
  let l := ((Index.documents resolve load.doc front).run load.library).2
  let found := (entry resolve load.doc v).run l
  let e ← found.1
  let w ← e.members.get? method.key
  let before := Method.all.takeWhile (· ≠ method)
  let l := ((collect (operation resolve e.doc e.members) before).run found.2).2
  let b ← ((block resolve e.doc w).run l).1
  return (e, b)

theorem finds_iff : load.Finds path method e b ↔ load.find? path method = some (e, b) := by
  constructor
  · rintro ⟨hv, hfront, hentry, hw, hbefore, hblock⟩
    obtain ⟨-, rfl⟩ := Prod.ext_iff.mp (inTurn_hasDocument_iff.mp hfront)
    obtain ⟨-, rfl⟩ := Prod.ext_iff.mp (inTurn_hasOperation_iff.mp hbefore)
    simp only [find?, hv, ← hasEntry_iff.mp hentry, hw, Method.all, ← hasBlock_iff.mp hblock,
      Option.bind_eq_bind, Option.bind_some, Option.pure_def]
  · intro h
    simp only [find?, Option.bind_eq_bind, Option.bind_eq_some_iff, Option.pure_def] at h
    obtain ⟨v, hv, e', hentry, w, hw, b', hblock, heq⟩ := h
    obtain ⟨rfl, rfl⟩ := Prod.mk.inj (Option.some.inj heq)
    exact .intro hv (inTurn_hasDocument_iff.mpr rfl) (hasEntry_iff.mpr (Prod.ext hentry.symm rfl)) hw
      (inTurn_hasOperation_iff.mpr rfl) (hasBlock_iff.mpr (Prod.ext hblock.symm rfl))

/-- Of what is found under a path and a method, there is one operation in the documents. -/
theorem Finds.filter_eq (h : load.Finds path method e b) (hkeys : load.entries.keys.Nodup)
    (hdocs : InTurn (HasDocument load.source.tree load.doc) load.library load.entries (docs, l)) :
    ∃ operations, docs.filter (·.path = path) = [⟨path, e.shared, operations⟩] ∧
      operations.filter (·.method = method) = [b.decl method] := by
  obtain ⟨hv, hfront, hentry, hw, hbefore, hblock⟩ := h
  obtain ⟨rfl, -⟩ := Prod.ext_iff.mp (inTurn_hasDocument_iff.mp hdocs)
  obtain ⟨-, rfl⟩ := Prod.ext_iff.mp (inTurn_hasDocument_iff.mp hfront)
  obtain ⟨-, rfl⟩ := Prod.ext_iff.mp (inTurn_hasOperation_iff.mp hbefore)
  simp only [filter_documents _ hkeys, hv, run_pathDocument, ← hasEntry_iff.mp hentry,
    Option.toList_some]
  refine ⟨_, rfl, ?_⟩
  rw [filter_operations]
  simp only [Method.all, run_operation, hw, ← hasBlock_iff.mp hblock, Option.map_some,
    Option.toList_some]

/-- Every operation in the documents is found under its path and its method. -/
theorem exists_finds (hkeys : load.entries.keys.Nodup)
    (hdocs : InTurn (HasDocument load.source.tree load.doc) load.library load.entries (docs, l))
    {doc : PathDocument} {decl : OperationDecl} (hdoc : doc ∈ docs) (hdecl : decl ∈ doc.operations) :
    ∃ e b, load.Finds doc.path decl.method e b := by
  obtain ⟨rfl, -⟩ := Prod.ext_iff.mp (inTurn_hasDocument_iff.mp hdocs)
  -- The document is the one of its path, and the operation the one of its method.
  have hpath : doc ∈ List.filter (·.path = doc.path) _ := List.mem_filter.mpr ⟨hdoc, by simp⟩
  have hmethod : decl ∈ doc.operations.filter (·.method = decl.method) := by simp [hdecl]
  rw [filter_documents _ hkeys] at hpath
  split at hpath
  case h_1 => cases hpath
  case h_2 v hv =>
    simp only [Option.mem_toList, run_pathDocument] at hpath
    split at hpath
    case h_1 => cases hpath
    case h_2 e l₂ hentry =>
      rw [← Option.some.inj hpath, filter_operations] at hmethod
      simp only [Option.mem_toList, run_operation] at hmethod
      split at hmethod
      case h_1 => cases hmethod
      case h_2 w hw =>
        obtain ⟨b, hblock, -⟩ := Option.map_eq_some_iff.mp hmethod
        refine ⟨e, b, finds_iff.mpr ?_⟩
        simp only [find?, hv, hentry, hw, hblock, Option.bind_eq_bind, Option.bind_some,
          Option.pure_def]

end Load

end ApiToolbox.Index
