import ApiToolbox.Proofs.Index
import ApiToolbox.Proofs.Json.Equality
import ApiToolbox.Proofs.Reference

/-! Entries by themselves. The documents that have been read for one entry are there for the next one.
That does not show, unless an entry has a reference to a document whose path strays: such a document can
be had only where another entry has read it before. -/

namespace ApiToolbox.Index

open Json (Value)

/-- The keys under which the load of an entry goes on. -/
def followedKeys : List String := "parameters" :: "requestBody" :: Method.all.map Method.key

/-- The values that the load of a value in a document comes to, if it starts with a library. It goes on
to items, to members under some keys, and to where references lead. -/
inductive Reaches (t : FileTree) (l : Library) (doc : DocPath) (v : Value) : DocPath → Value → Prop where
  | start : Reaches t l doc v doc v
  | item {d : DocPath} {vs : List Value} {w : Value} (h : Reaches t l doc v d (.array vs))
      (hw : w ∈ vs) : Reaches t l doc v d w
  | member {d : DocPath} {ms : Members Value} {key : String} {w : Value}
      (h : Reaches t l doc v d (.object ms)) (hkey : key ∈ followedKeys) (hw : ms.get? key = some w) :
      Reaches t l doc v d w
  | reference {d : DocPath} {u : Value} {r : String} {target : Target} {w : Value}
      (h : Reaches t l doc v d u) (hr : u.reference? = some r)
      (htarget : Target.ofReference t d r = .ok target) (hw : (l.fetch t r target).1 = .ok w) :
      Reaches t l doc v target.doc w

/-- No reference that the load of a value comes to is to a document that strays, those apart that the
library has. -/
def Steady (t : FileTree) (l : Library) (doc : DocPath) (v : Value) : Prop :=
  ∀ d u, Reaches t l doc v d u → ∀ r target, u.reference? = some r →
    Target.ofReference t d r = .ok target → l.get? target.doc = none → ¬ target.doc.Strays t

variable {t : FileTree} {l : Library} {doc d : DocPath} {v w : Value}

theorem Reaches.trans {d' : DocPath} {w' : Value} (h : Reaches t l doc v d w)
    (h' : Reaches t l d w d' w') : Reaches t l doc v d' w' := by
  induction h' with
  | start => exact h
  | item _ hw ih => exact ih.item hw
  | member _ hkey hw ih => exact ih.member hkey hw
  | reference _ hr htarget hw ih => exact ih.reference hr htarget hw

theorem Steady.of_reaches (h : Steady t l doc v) (hw : Reaches t l doc v d w) : Steady t l d w :=
  fun _ _ hreaches => h _ _ (hw.trans hreaches)

theorem Steady.member {ms : Members Value} {key : String} (h : Steady t l doc v)
    (hms : v.members? = some ms) (hkey : key ∈ followedKeys) (hw : ms.get? key = some w) :
    Steady t l doc w := by
  cases v with
  | object members =>
    obtain rfl := Option.some.inj hms
    exact h.of_reaches (Reaches.start.member hkey hw)
  | _ => cases hms

/-- Values, each in its document, that are closed under what a load comes to, with no reference that
strays. -/
def IsClosed (t : FileTree) (l : Library) (values : List (DocPath × Value)) : Prop :=
  ∀ p ∈ values,
    (∀ w ∈ p.2.items?.getD [], (p.1, w) ∈ values) ∧
    (∀ key ∈ followedKeys, ∀ w ∈ (p.2.member? key).toList, (p.1, w) ∈ values) ∧
    ∀ r ∈ p.2.reference?.toList, ∀ target ∈ (Target.ofReference t p.1 r).toOption.toList,
      (l.get? target.doc = none → ¬ target.doc.Strays t) ∧
        ∀ w ∈ (l.fetch t r target).1.toOption.toList, (target.doc, w) ∈ values

-- By decidable equality: nothing is known of the equality test that values come with.
instance (p : DocPath × Value) (values : List (DocPath × Value)) : Decidable (p ∈ values) :=
  decidable_of_iff (∃ q ∈ values, p = q) (by simp)

instance (t : FileTree) (l : Library) (values : List (DocPath × Value)) :
    Decidable (IsClosed t l values) := by
  unfold IsClosed
  infer_instance

theorem IsClosed.steady {values : List (DocPath × Value)} (h : IsClosed t l values)
    (hv : (doc, v) ∈ values) : Steady t l doc v := by
  have hstays : ∀ d u, Reaches t l doc v d u → (d, u) ∈ values := by
    intro d u hu
    induction hu with
    | start => exact hv
    | item _ hw ih => exact (h _ ih).1 _ hw
    | @member _ ms key w _ hkey hw ih =>
      have hmembers := (h _ ih).2.1 key hkey
      exact hmembers w (by simpa [Value.member?, Value.members?] using hw)
    | @reference _ _ r target _ _ hr htarget hw ih =>
      have htargets := (h _ ih).2.2 r (by simp [hr]) target (by simp [htarget, Except.toOption])
      exact htargets.2 _ (by simp [hw, Except.toOption])
  intro d u hu r target hr htarget
  exact ((h _ (hstays d u hu)).2.2 r (by simp [hr]) target (by simp [htarget, Except.toOption])).1

/-! ### What has been read does not show -/

section Steps

open Library (GrownFrom)

/-- The value that references lead to is steady where they are. -/
def EndsSteady (t : FileTree) (l : Library) (found : Except ReferenceError (DocPath × Value)) : Prop :=
  ∀ d w, found = .ok (d, w) → Steady t l d w

theorem endsSteady_error (e : ReferenceError) : EndsSteady t l (.error e) := by
  intro d w h
  cases h

theorem oblivious_chase {seen : List String}
    {next : String → Target → StateM Library (Except ReferenceError (DocPath × Value))}
    (hnext : ∀ r target, v.reference? = some r → Target.ofReference t doc r = .ok target →
      Oblivious (GrownFrom t l) l (Steady t l doc v) (next r target) (EndsSteady t l)) :
    Oblivious (GrownFrom t l) l (Steady t l doc v) (Library.chase t seen doc v next)
      (EndsSteady t l) := by
  unfold Library.chase
  split
  · refine .pure fun hv d w h => ?_
    obtain ⟨rfl, rfl⟩ := Prod.mk.inj (Except.ok.inj h)
    exact hv
  · next r hr =>
    split
    · exact .pure fun _ => endsSteady_error _
    · next target htarget =>
      split
      · exact .pure fun _ => endsSteady_error _
      · exact hnext r target hr htarget

theorem oblivious_following (fuel : Nat) (seen : List String) (doc : DocPath) (v : Value) :
    Oblivious (GrownFrom t l) l (Steady t l doc v) (Library.following t fuel seen doc v)
      (EndsSteady t l) := by
  induction fuel generalizing seen doc v with
  | zero =>
    rw [Library.following_zero]
    exact oblivious_chase fun r target _ _ => .pure fun _ => endsSteady_error _
  | succ fuel ih =>
    rw [Library.following_succ]
    refine oblivious_chase fun r target hr htarget => ?_
    have hfetch := (Library.oblivious_fetching r target).mono
      fun hv : Steady t l doc v => hv doc v .start r target hr htarget
    refine hfetch.bind (.refl t l) fun found => ?_
    cases found with
    | error e => exact .pure fun _ => endsSteady_error _
    | ok w =>
      refine (ih _ _ _).mono ?_
      rintro ⟨hv, hw⟩
      exact hv.of_reaches (.reference .start hr htarget hw)

theorem oblivious_resolve (s : Source) (doc : DocPath) (v : Value) :
    Oblivious (GrownFrom s.tree l) l (Steady s.tree l doc v) (s.resolve doc v)
      (EndsSteady s.tree l) :=
  oblivious_following s.limit [] doc v

theorem oblivious_parameters (s : Source) (doc : DocPath) (v : Option Value) :
    Oblivious (GrownFrom s.tree l) l (∀ w, v = some w → Steady s.tree l doc w)
      (parameters s.resolve doc v) fun _ => True := by
  have hitems : (∀ w, v = some w → Steady s.tree l doc w) →
      ∀ item ∈ (v.bind Value.items?).getD [], Steady s.tree l doc item := by
    intro hv item hitem
    obtain ⟨vs, rfl, hitem⟩ := Value.exists_of_mem_items hitem
    exact (hv _ rfl).of_reaches (Reaches.start.item hitem)
  unfold parameters
  refine ((Oblivious.mapM (H := Steady s.tree l doc) (P := fun _ _ => True) (.refl s.tree l) ?_).mono
    hitems).bind (.refl s.tree l) fun found => .pure fun _ => trivial
  intro item _
  refine (oblivious_resolve s doc item).bind (.refl s.tree l) fun found => ?_
  cases found with
  | error e => exact .pure fun _ => trivial
  | ok found => exact .pure fun _ => trivial

/-- The mapping is that of a steady value. -/
def IsSteadyMapping (t : FileTree) (l : Library) (d : DocPath) (ms : Members Value) : Prop :=
  ∃ w, w.members? = some ms ∧ Steady t l d w

theorem oblivious_mapping (s : Source) (doc : DocPath) (v : Value) :
    Oblivious (GrownFrom s.tree l) l (Steady s.tree l doc v) (mapping s.resolve doc v)
      fun found => ∀ m ∈ found, IsSteadyMapping s.tree l m.1 m.2 := by
  unfold mapping
  refine (oblivious_resolve s doc v).bind (.refl s.tree l) fun found => ?_
  cases found with
  | error e => exact .pure fun _ m hm => by cases hm
  | ok found =>
    refine .pure ?_
    rintro ⟨-, hends⟩ m hm
    obtain ⟨ms, hms, rfl⟩ := Option.map_eq_some_iff.mp hm
    exact ⟨_, hms, hends _ _ rfl⟩

theorem IsSteadyMapping.get? {d : DocPath} {ms : Members Value} {key : String}
    (h : IsSteadyMapping t l d ms) (hkey : key ∈ followedKeys) :
    ∀ w, ms.get? key = some w → Steady t l d w := by
  intro w hw
  obtain ⟨u, hu, hsteady⟩ := h
  exact hsteady.member hu hkey hw

theorem oblivious_entry (s : Source) (doc : DocPath) (v : Value) :
    Oblivious (GrownFrom s.tree l) l (Steady s.tree l doc v) (entry s.resolve doc v)
      fun found => ∀ e ∈ found, IsSteadyMapping s.tree l e.doc e.members := by
  unfold entry
  refine (oblivious_mapping s doc v).bind (.refl s.tree l) fun found => ?_
  cases found with
  | none => exact .pure fun _ e he => by cases he
  | some m =>
    obtain ⟨d, ms⟩ := m
    have hshared := (oblivious_parameters s d (ms.get? "parameters")).mono
      fun h : Steady s.tree l doc v ∧ ∀ m ∈ some (d, ms), IsSteadyMapping s.tree l m.1 m.2 =>
        (h.2 (d, ms) rfl).get? (by decide)
    refine hshared.bind (.refl s.tree l) fun shared => .pure ?_
    rintro ⟨⟨-, hm⟩, -⟩ e he
    obtain rfl := Option.some.inj he
    exact hm (d, ms) rfl

theorem oblivious_block (s : Source) (doc : DocPath) (v : Value) :
    Oblivious (GrownFrom s.tree l) l (Steady s.tree l doc v) (block s.resolve doc v) fun _ => True := by
  unfold block
  refine (oblivious_mapping s doc v).bind (.refl s.tree l) fun found => ?_
  cases found with
  | none => exact .pure fun _ => trivial
  | some m =>
    obtain ⟨d, ms⟩ := m
    have hown := (oblivious_parameters s d (ms.get? "parameters")).mono
      fun h : Steady s.tree l doc v ∧ ∀ m ∈ some (d, ms), IsSteadyMapping s.tree l m.1 m.2 =>
        (h.2 (d, ms) rfl).get? (by decide)
    refine hown.bind (.refl s.tree l) fun own => ?_
    cases hw : ms.get? "requestBody" with
    | none => exact .pure fun _ => trivial
    | some w =>
      have hbody := (oblivious_mapping s d w).mono
        fun h : (Steady s.tree l doc v ∧ ∀ m ∈ some (d, ms), IsSteadyMapping s.tree l m.1 m.2) ∧
          True => (h.1.2 (d, ms) rfl).get? (by decide) w hw
      exact hbody.bind (.refl s.tree l) fun body => .pure fun _ => trivial

theorem oblivious_operation (s : Source) (doc : DocPath) (ms : Members Value) (method : Method) :
    Oblivious (GrownFrom s.tree l) l (IsSteadyMapping s.tree l doc ms)
      (operation s.resolve doc ms method) fun _ => True := by
  have hkey : method.key ∈ followedKeys := by cases method <;> decide
  rw [operation_eq]
  cases hv : ms.get? method.key with
  | none => exact .pure fun _ => trivial
  | some v =>
    have hblock := (oblivious_block s doc v).mono
      fun h : IsSteadyMapping s.tree l doc ms => h.get? hkey v hv
    exact hblock.bind (.refl s.tree l) fun found => .pure fun _ => trivial

theorem oblivious_pathDocument (s : Source) (doc : DocPath) (path : String) (v : Value) :
    Oblivious (GrownFrom s.tree l) l (Steady s.tree l doc v) (pathDocument s.resolve doc path v)
      fun _ => True := by
  rw [pathDocument_eq]
  refine (oblivious_entry s doc v).bind (.refl s.tree l) fun found => ?_
  cases found with
  | none => exact .pure fun _ => trivial
  | some e =>
    have heach := Oblivious.mapM (.refl s.tree l) fun method (_ : method ∈ Method.all) =>
      oblivious_operation s e.doc e.members method
    have hall := heach.mono
      fun h : Steady s.tree l doc v ∧ ∀ e' ∈ some e, IsSteadyMapping s.tree l e'.doc e'.members =>
        fun _ _ => h.2 e rfl
    refine Oblivious.bind (.refl s.tree l) (hall.bind (Q := fun _ => True) (.refl s.tree l) ?_) ?_
    · exact fun _ => .pure fun _ => trivial
    · exact fun _ => .pure fun _ => trivial

end Steps

/-! ### Entries -/

namespace Load

/-- What the load gives for an entry when a library has been read. -/
def given (load : Load) (l : Library) (e : String × Value) : Option PathDocument :=
  ((pathDocument load.source.resolve load.doc e.1 e.2).run l).1

/-- What the load gives for an entry by itself, with nothing read for others. -/
def alone (load : Load) (e : String × Value) : Option PathDocument := load.given load.library e

/-- No reference of the entry strays. -/
def IsSteady (load : Load) (e : String × Value) : Prop :=
  Steady load.source.tree load.library load.doc e.2

end Load

/-- An index is loaded entry by entry. Each entry gives something or nothing; that may depend on which
files have been read for the others. But a steady entry gives what it gives by itself, whatever the other
entries are and whether they can be loaded. -/
theorem ofText_entrywise (t : FileTree) (path : String) {text : String} {index : Value}
    {entries : Members Value} (hindex : Document.parse? text = some index)
    (hentries : entries? index = some entries) :
    let load := Load.start t path index entries
    (∃ found, ofText t path text = found.filterMap id ∧ List.Forall₂ (fun e o =>
      (∃ l, Library.GrownFrom t load.library l ∧ o = load.given l e) ∧
        (load.IsSteady e → o = load.alone e)) entries found) ∧
    ((∀ e ∈ entries, load.IsSteady e) → ofText t path text = entries.filterMap load.alone) := by
  intro load
  have hload : ofText t path text = load.documents := ofText_eq t path hindex hentries
  have hseed : Library.GrownFrom t load.library load.library := .refl _ _
  have hoblivious (e : String × Value) : Oblivious (Library.GrownFrom t load.library) load.library
      (load.IsSteady e) (pathDocument load.source.resolve load.doc e.1 e.2) fun _ => True :=
    oblivious_pathDocument load.source load.doc e.1 e.2
  have heach := fun e (_ : e ∈ entries) => hoblivious e
  rw [hload]
  constructor
  · refine ⟨_, rfl, (Oblivious.forall₂_mapM heach hseed).imp ?_⟩
    rintro e o ⟨l, hl, ho⟩
    exact ⟨⟨l, hl, ho⟩, fun hsteady => ho.trans ((hoblivious e).same hsteady l hl)⟩
  · intro hsteady
    have hfound := Oblivious.fst_mapM heach hsteady hseed
    calc load.documents
        = (entries.map load.alone).filterMap id := congrArg (List.filterMap id) hfound
      _ = entries.filterMap load.alone := by rw [List.filterMap_map, Function.id_comp]

/-- An index with an entry whose file is not there, one that refers to itself, and one that can be
loaded. -/
theorem ofText_entrywise_user :
    let text := "/gone:\n  $ref: gone.yaml\n/loop:\n  $ref: '#/~1loop'\n/user:\n  $ref: user.yaml\n"
    let user := "get:\n  summary: Get user\n"
    let t : FileTree := ⟨[(["index.yaml"], .file (Text.Utf8.encode text.toList)),
      (["user.yaml"], .file (Text.Utf8.encode user.toList))], []⟩
    let refer (r : String) : Value := .object [("$ref", .string r)]
    let entries : Members Value :=
      [("/gone", refer "gone.yaml"), ("/loop", refer "#/~1loop"), ("/user", refer "user.yaml")]
    let load := Load.start t "/index.yaml" (.object entries) entries
    Document.parse? text = some (.object entries) ∧ entries? (.object entries) = some entries ∧
      (∀ e ∈ entries, load.IsSteady e) ∧
      ofText t "/index.yaml" text = entries.filterMap load.alone ∧
      entries.filterMap load.alone =
        [⟨"/user", [], [⟨.get, some "Get user", none, [], none⟩]⟩] := by
  intro text user t refer entries load
  have hindex : Document.parse? text = some (.object entries) := by decide +kernel
  have hentries : entries? (.object entries) = some entries := rfl
  let block : Value := .object [("summary", .string "Get user")]
  have hclosed : IsClosed t load.library
      [(load.doc, refer "gone.yaml"), (load.doc, refer "#/~1loop"), (load.doc, refer "user.yaml"),
        (⟨"/user.yaml"⟩, .object [("get", block)]), (⟨"/user.yaml"⟩, block)] := by
    decide +kernel
  have hsteady : ∀ e ∈ entries, load.IsSteady e := by
    intro e he
    refine hclosed.steady ?_
    simp only [entries, List.mem_cons, List.not_mem_nil, or_false] at he
    rcases he with rfl | rfl | rfl
    · simp
    · simp
    · simp
  refine ⟨hindex, hentries, hsteady, (ofText_entrywise t "/index.yaml" hindex hentries).2 hsteady, ?_⟩
  decide +kernel

/-- A path with a slash behind a file leads nowhere, so by itself the second entry cannot be loaded. Behind
the first entry, which reads the file, it can. -/
theorem ofText_ne_filterMap_alone :
    let text := "/a:\n  $ref: user.yaml\n/b:\n  $ref: user.yaml/\n"
    let user := "get:\n  summary: Get user\n"
    let t : FileTree := ⟨[(["index.yaml"], .file (Text.Utf8.encode text.toList)),
      (["user.yaml"], .file (Text.Utf8.encode user.toList))], []⟩
    let refer (r : String) : Value := .object [("$ref", .string r)]
    let entries : Members Value := [("/a", refer "user.yaml"), ("/b", refer "user.yaml/")]
    let load := Load.start t "/index.yaml" (.object entries) entries
    let operations : List OperationDecl := [⟨.get, some "Get user", none, [], none⟩]
    Document.parse? text = some (.object entries) ∧ entries? (.object entries) = some entries ∧
      ofText t "/index.yaml" text = [⟨"/a", [], operations⟩, ⟨"/b", [], operations⟩] ∧
      entries.filterMap load.alone = [⟨"/a", [], operations⟩] := by
  intro text user t refer entries load operations
  refine ⟨by decide +kernel, rfl, ?_, ?_⟩
  · decide +kernel
  · decide +kernel

end ApiToolbox.Index
