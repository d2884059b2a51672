import ApiToolbox.Proofs.Reference.Trail

/-! Chains that come to no end. A chain is taken for cyclic when it comes to the label of a target that it
has met. Where no document has a `#` in its path, two documents that are loaded have the same label only
with the same target. From a target that has been met, the chain goes the same way as before, as what
has been loaded stays: it is endless. Only a document that is not there can have the label of another. -/

namespace ApiToolbox

open Json (Value)

/-! ### Marks -/

namespace DocPath

/-- The path has the mark in it that stands in front of a pointer. -/
def Marked (d : DocPath) : Prop := '#' ∈ d.text.toList

instance (d : DocPath) : Decidable d.Marked := inferInstanceAs (Decidable ('#' ∈ d.text.toList))

theorem marked_iff_key (d : DocPath) : d.Marked ↔ ∃ name ∈ d.key.2, '#' ∈ name.toList := by
  set names := (FileTree.names d.text).filter fun n => n ≠ "" && n ≠ "." with hnames
  have hkey : d.key.2 = "." :: names ∨ d.key.2 = names := by
    simp only [key]
    split
    · exact .inl rfl
    · exact .inr rfl
  have hmark : (∃ name ∈ d.key.2, '#' ∈ name.toList) ↔ ∃ name ∈ names, '#' ∈ name.toList := by
    rcases hkey with h | h
    · simp [h]
    · rw [h]
  rw [hmark]
  constructor
  · intro h
    have hpieces : ∀ c ∈ d.text.toList, c = '/' ∨ ∃ piece ∈ Text.splitOn '/' d.text.toList, c ∈ piece := by
      have hjoined : ∀ c ∈ ['/'].intercalate (Text.splitOn '/' d.text.toList),
          c = '/' ∨ ∃ piece ∈ Text.splitOn '/' d.text.toList, c ∈ piece :=
        Text.forall_mem_intercalate (.inl rfl) fun piece hpiece c hc => .inr ⟨piece, hpiece, hc⟩
      rwa [Text.intercalate_splitOn] at hjoined
    obtain ⟨piece, hpiece, hmark⟩ := (hpieces _ h).resolve_left (by decide)
    have hcounts : String.ofList piece ≠ "" ∧ String.ofList piece ≠ "." := by
      constructor
      all_goals
        intro heq
        rw [← String.toList_inj, String.toList_ofList] at heq
        simp [heq] at hmark
    refine ⟨String.ofList piece, ?_, by simpa using hmark⟩
    exact List.mem_filter.mpr ⟨List.mem_map_of_mem hpiece, by simpa using hcounts⟩
  · rintro ⟨name, hname, hmark⟩
    obtain ⟨piece, hpiece, rfl⟩ := List.mem_map.mp (List.mem_of_mem_filter hname)
    exact (Text.mem_of_mem_splitOn hpiece _ (by simpa using hmark)).2

theorem marked_congr {d d' : DocPath} (h : d.key = d'.key) : d.Marked ↔ d'.Marked := by
  rw [marked_iff_key, marked_iff_key, h]

end DocPath

theorem Target.toList_label (target : Target) : target.label.toList =
    target.doc.text.toList ++ (target.pointer.elim [] fun p => '#' :: p.toList) := by
  unfold label
  cases target.pointer with
  | none => simp
  | some p => simp

/-- A path without a mark ends where the first one stands. -/
theorem Target.label_injective {a b : Target} (h : a.label = b.label) (ha : ¬ a.doc.Marked)
    (hb : ¬ b.doc.Marked) : a = b := by
  have hcut (target : Target) (hplain : ¬ target.doc.Marked) :
      Text.cutAt? '#' target.label.toList =
        target.pointer.map fun p => (target.doc.text.toList, p.toList) := by
    rw [toList_label]
    cases target.pointer with
    | none => simpa using Text.cutAt?_of_not_mem hplain
    | some p => exact Text.cutAt?_append_cons hplain p.toList
  obtain ⟨⟨text⟩, pointer⟩ := a
  obtain ⟨⟨text'⟩, pointer'⟩ := b
  have hcuts := (hcut _ ha).symm.trans ((congrArg (fun s => Text.cutAt? '#' s.toList) h).trans (hcut _ hb))
  cases pointer with
  | none =>
    cases pointer' with
    | none => rw [show text = text' from h]
    | some p => cases hcuts
  | some p =>
    cases pointer' with
    | none => cases hcuts
    | some p' =>
      obtain ⟨htext, hp⟩ := Prod.mk.inj (Option.some.inj hcuts)
      obtain rfl : text = text' := String.toList_inj.mp htext
      obtain rfl : p = p' := String.toList_inj.mp hp
      rfl

/-! ### Errors that are not of a chain -/

theorem Target.document_ne_cyclic {t : FileTree} {base : DocPath} {part r : String} :
    document t base part ≠ .error (.cyclic r) := by
  unfold document
  split
  · simp
  split
  · simp
  split
  · split
    · simp
    split
    · simp
    · simp
  · simp

theorem Target.ofReference_ne_cyclic {t : FileTree} {base : DocPath} {r r' : String} :
    ofReference t base r ≠ .error (.cyclic r') := by
  rw [ofReference_eq]
  cases hdoc : document t base (String.ofList (cut r).1) with
  | error e =>
    intro h
    obtain rfl := Except.error.inj h
    exact document_ne_cyclic hdoc
  | ok d =>
    intro h
    replace h : (if (cut r).2 = [] then Except.ok (Target.mk d none) else _) = _ := h
    split_ifs at h
    cases h

namespace Library

variable {t : FileTree} {l l' : Library} {doc d : DocPath} {v w : Value} {r : String}
  {target : Target} {targets : List Target} {s s' s₀ s₁ s₂ : Stand}

/-- No document has a mark in its path: none that is read, none that has been loaded, and not the one that
the chain stands in. -/
structure Plain (t : FileTree) (s : Stand) : Prop where
  readable : ∀ path text, t.read (DocPath.locate t path).text = .ok text →
    ¬ (DocPath.locate t path).Marked
  loaded : ∀ d v, s.library.get? d = some v → ¬ d.Marked
  doc : ¬ s.doc.Marked

theorem Plain.not_marked_of_load {content : Value} (h : Plain t s) (hr : s.RefersTo t r target)
    (hload : s.library.load t target.doc = .ok (content, l')) : ¬ target.doc.Marked := by
  rcases load_eq_ok_iff.mp hload with ⟨hv, -⟩ | ⟨-, ⟨text, htext, -⟩, -⟩
  · exact h.loaded _ _ hv
  · rcases Target.document_cases (Target.document_of_ofReference hr.target).1 with
      hbase | ⟨⟨path, hpath⟩, -⟩ | hbeside
    · exact hbase ▸ h.doc
    · exact hpath ▸ h.readable path text (hpath ▸ htext)
    · exact hbeside ▸ h.readable _ text (hbeside ▸ htext)

theorem Plain.hop (h : Plain t s) (hhop : Hop t s target s') :
    ¬ target.doc.Marked ∧ Plain t s' := by
  obtain ⟨r, hr⟩ := hhop.refers
  obtain ⟨content, hload, -⟩ := hhop.value
  have hplain := h.not_marked_of_load hr hload
  refine ⟨hplain, h.readable, fun d v hv => ?_, hhop.doc ▸ hplain⟩
  rcases load_eq_ok_iff.mp hload with ⟨-, hsame⟩ | ⟨-, -, hnew⟩
  · exact h.loaded d v (hsame ▸ hv)
  · rw [hnew, get?_insert] at hv
    split at hv
    · next hkey => rwa [DocPath.marked_congr hkey]
    · exact h.loaded d v hv

theorem Plain.trail (h : Plain t s) (htrail : Trail t s targets s') :
    (∀ target ∈ targets, ¬ target.doc.Marked) ∧ Plain t s' := by
  induction htrail with
  | here _ => exact ⟨by simp, h⟩
  | hop hhop _ ih =>
    obtain ⟨hmark, hplain⟩ := h.hop hhop
    obtain ⟨hmarks, hend⟩ := ih hplain
    exact ⟨List.forall_mem_cons.mpr ⟨hmark, hmarks⟩, hend⟩

/-! ### Chains without an end -/

/-- References can be followed for any number of steps. -/
def Endless (t : FileTree) (s : Stand) : Prop :=
  ∀ n, ∃ targets s', targets.length = n ∧ Trail t s targets s'

theorem endless_of_le (h : ∀ n, ∃ targets s', n ≤ targets.length ∧ Trail t s targets s') :
    Endless t s := by
  intro n
  obtain ⟨targets, s', hn, htrail⟩ := h n
  rw [← List.take_append_drop n targets] at htrail
  obtain ⟨s₁, hfront, -⟩ := htrail.split
  exact ⟨targets.take n, s₁, List.length_take_of_le hn, hfront⟩

theorem endless_of_loop (h : Trail t s (target :: targets) s) : Endless t s := by
  refine endless_of_le fun n => ?_
  induction n with
  | zero => exact ⟨[], s, Nat.le_refl 0, .here s⟩
  | succ n ih =>
    obtain ⟨rest, s', hn, hrest⟩ := ih
    refine ⟨target :: targets ++ rest, s', ?_, h.append hrest⟩
    rw [List.length_append, List.length_cons]
    omega

theorem Trail.endless (h : Trail t s targets s') (h' : Endless t s') : Endless t s := by
  refine endless_of_le fun n => ?_
  obtain ⟨rest, s'', rfl, hrest⟩ := h' n
  exact ⟨targets ++ rest, s'', by simp, h.append hrest⟩

/-- A chain that comes to a target which it has met is endless. -/
theorem endless_of_met (h : Trail t s₀ targets s) (hr : s.RefersTo t r target)
    (hmet : target ∈ targets) : Endless t s₀ := by
  obtain ⟨as, bs, rfl⟩ := List.append_of_mem hmet
  obtain ⟨s₁, -, hback⟩ := h.split
  cases hback with
  | @hop _ s₂ _ _ _ hhop hrest =>
    obtain ⟨content, hload, hvalue⟩ := hhop.value
    -- The document has been kept since, so the reference leads to the same value once more.
    have hkept := hrest.grownFrom.keeps _ _ (get?_of_load hload)
    have hagain : Hop t s target ⟨s.library, s₂.doc, s₂.value⟩ :=
      ⟨⟨r, hr⟩, ⟨content, load_of_get? t hkept, hvalue⟩, hhop.doc⟩
    exact h.endless (endless_of_loop (.hop hagain (hrest.replay (fun _ _ => rfl) fun _ _ hd => hd)))

/-! ### Chains with an end -/

/-- No reference can be followed from here. -/
def Stuck (t : FileTree) (s : Stand) : Prop := ∀ target s', ¬ Hop t s target s'

theorem stuck_of_value (h : s.value.reference? = none) : Stuck t s := by
  intro target s' hhop
  obtain ⟨r, hr⟩ := hhop.refers
  cases h.symm.trans hr.reference

theorem stuck_of_astray {e : ReferenceError} (hr : s.value.reference? = some r)
    (h : Target.ofReference t s.doc r = .error e) : Stuck t s := by
  intro target s' hhop
  obtain ⟨r', hr'⟩ := hhop.refers
  obtain rfl := Option.some.inj (hr.symm.trans hr'.reference)
  cases h.symm.trans hr'.target

theorem stuck_of_fetch {e : ReferenceError} (hr : s.RefersTo t r target)
    (h : (s.library.fetch t r target).1 = .error e) : Stuck t s := by
  intro target' s' hhop
  obtain ⟨r', hr'⟩ := hhop.refers
  obtain ⟨rfl, rfl⟩ := hr.unique hr'
  rw [hhop.fetch r] at h
  cases h

theorem stuck_of_load {e : ReferenceError} (hr : s.RefersTo t r target)
    (h : s.library.load t target.doc = .error e) : Stuck t s :=
  stuck_of_fetch (e := e) hr (by simp [fetch, h])

/-- All trails are the beginning of one that is at its end. -/
theorem Trail.rest {as bs : List Target} (h : Trail t s as s₁) (hstuck : Stuck t s₁)
    (h' : Trail t s bs s₂) : ∃ rest, as = bs ++ rest ∧ Trail t s₂ rest s₁ := by
  rcases h.comparable h' with ⟨rest, rfl, hrest⟩ | hshorter
  · cases hrest with
    | here _ => exact ⟨[], by simp, .here _⟩
    | hop hhop _ => exact absurd hhop (hstuck _ _)
  · exact hshorter

theorem Trail.unique {as bs : List Target} (h : Trail t s as s₁) (hstuck : Stuck t s₁)
    (h' : Trail t s bs s₂) (hstuck' : Stuck t s₂) : as = bs ∧ s₁ = s₂ := by
  obtain ⟨rest, rfl, hrest⟩ := h.rest hstuck h'
  cases hrest with
  | here _ => exact ⟨by simp, rfl⟩
  | hop hhop _ => exact absurd hhop (hstuck' _ _)

theorem Trail.not_endless (h : Trail t s targets s') (hstuck : Stuck t s') : ¬ Endless t s := by
  intro hendless
  obtain ⟨longer, s'', hlength, hlonger⟩ := hendless (targets.length + 1)
  obtain ⟨rest, heq, -⟩ := h.rest hstuck hlonger
  have hsum := congrArg List.length heq
  rw [List.length_append] at hsum
  omega

/-! ### What resolving says -/

theorem load_ne_cyclic : l.load t d ≠ .error (.cyclic r) := by
  unfold load
  split
  · simp
  split
  · simp
  split
  · simp
  · simp

theorem fetch_ne_cyclic {r' : String} : (l.fetch t r target).1 ≠ .error (.cyclic r') := by
  unfold fetch
  split
  · next e hload =>
    intro h
    obtain rfl := Except.error.inj h
    exact load_ne_cyclic hload
  split
  · simp
  split
  · simp
  · simp

/-- The chain comes to a document that cannot be loaded and has a mark in its path, and this is written like
a path and a pointer that have been met. -/
def Collides (t : FileTree) (s₀ : Stand) : Prop :=
  ∃ targets s r target e, Trail t s₀ targets s ∧ s.RefersTo t r target ∧ target.doc.Marked ∧
    s.library.load t target.doc = .error e ∧ target.label ∈ targets.map Target.label

variable {met : List String} {found : Except ReferenceError (DocPath × Value) × Library}

theorem Stops.cyclic_or_stuck (h : Stops t met s found) :
    (∃ r, found.1 = .error (.cyclic r)) ∨ Stuck t s := by
  cases h with
  | value h => exact .inr (stuck_of_value h)
  | astray hr h => exact .inr (stuck_of_astray hr h)
  | cyclic hr h => exact .inl ⟨_, rfl⟩
  | lost hr hnew h => exact .inr (stuck_of_fetch hr (by rw [h]))

theorem resolve_cyclic_iff (hplain : Plain t ⟨l, doc, v⟩) :
    (∃ r, (resolve t l doc v).1 = .error (.cyclic r)) ↔
      Endless t ⟨l, doc, v⟩ ∨ Collides t ⟨l, doc, v⟩ := by
  obtain ⟨targets, s, htrail, -, hstops⟩ := exists_trail_of_resolve t l doc v
  obtain ⟨hmarks, hend⟩ := hplain.trail htrail
  generalize resolve t l doc v = found at hstops
  constructor
  · rintro ⟨r, hcyclic⟩
    cases hstops with
    | value h => cases hcyclic
    | astray hr h =>
      obtain rfl := Except.error.inj hcyclic
      exact absurd h Target.ofReference_ne_cyclic
    | lost hr hnew h =>
      obtain rfl := Except.error.inj hcyclic
      exact absurd (congrArg Prod.fst h) fetch_ne_cyclic
    | @cyclic _ target hr hmet =>
      -- Without a mark it is the target that has been met, and with one it cannot be loaded.
      by_cases hmark : target.doc.Marked
      · cases hload : s.library.load t target.doc with
        | ok loaded => exact absurd hmark (hend.not_marked_of_load hr hload)
        | error e => exact .inr ⟨targets, s, _, target, e, htrail, hr, hmark, hload, hmet⟩
      · obtain ⟨same, hsame, hlabel⟩ := List.mem_map.mp hmet
        obtain rfl := Target.label_injective hlabel (hmarks same hsame) hmark
        exact .inl (endless_of_met htrail hr hsame)
  · rintro (hendless | ⟨targets', s', r, target, e, htrail', hr, -, hload, hmet⟩)
    · rcases hstops.cyclic_or_stuck with hcyclic | hstuck
      · exact hcyclic
      · exact absurd hendless (htrail.not_endless hstuck)
    · rcases hstops.cyclic_or_stuck with hcyclic | hstuck
      · exact hcyclic
      · obtain ⟨rfl, rfl⟩ := htrail.unique hstuck htrail' (stuck_of_load hr hload)
        cases hstops with
        | value h => cases h.symm.trans hr.reference
        | astray hr' h =>
          obtain rfl := Option.some.inj (hr.reference.symm.trans hr')
          cases hr.target.symm.trans h
        | cyclic hr' h => exact ⟨_, rfl⟩
        | lost hr' hnew h =>
          obtain ⟨rfl, rfl⟩ := hr.unique hr'
          exact absurd hmet hnew

theorem resolve_ok_iff (hplain : Plain t ⟨l, doc, v⟩) :
    resolve t l doc v = (.ok (d, w), l') ↔
      w.reference? = none ∧ ∃ targets, Trail t ⟨l, doc, v⟩ targets ⟨l', d, w⟩ := by
  have hcyclic := resolve_cyclic_iff hplain
  obtain ⟨targets, s, htrail, -, hstops⟩ := exists_trail_of_resolve t l doc v
  generalize resolve t l doc v = found at hcyclic hstops
  constructor
  · rintro rfl
    cases hstops with
    | value h => exact ⟨h, targets, htrail⟩
  · rintro ⟨hvalue, targets', htrail'⟩
    have hstuck' : Stuck t ⟨l', d, w⟩ := stuck_of_value hvalue
    rcases hstops.cyclic_or_stuck with hfound | hstuck
    · exfalso
      rcases hcyclic.mp hfound with hendless | ⟨_, s', r, target, e, hcollides, hr, -, hload, -⟩
      · exact htrail'.not_endless hstuck' hendless
      · obtain ⟨-, rfl⟩ := htrail'.unique hstuck' hcollides (stuck_of_load hr hload)
        cases hvalue.symm.trans hr.reference
    · obtain ⟨-, rfl⟩ := htrail.unique hstuck htrail' hstuck'
      cases hstops with
      | value h => rfl
      | astray hr h => cases hvalue.symm.trans hr
      | cyclic hr h | lost hr hnew h => cases hvalue.symm.trans hr.reference

/-! ### What a chain comes to -/

theorem Hop.content (h : Hop t s target s') : ∃ content pointer,
    s'.library.get? s'.doc = some content ∧ Json.Pointer.find? content pointer = some s'.value := by
  obtain ⟨content, hload, hvalue⟩ := h.value
  obtain ⟨pointer, hfind⟩ := Target.exists_find?_of_value? hvalue
  have hkept := get?_of_load hload
  rw [← h.doc] at hkept
  exact ⟨content, pointer, hkept, hfind⟩

theorem Trail.content (h : Trail t s targets s') (hne : targets ≠ []) : ∃ content pointer,
    s'.library.get? s'.doc = some content ∧ Json.Pointer.find? content pointer = some s'.value := by
  induction h with
  | here _ => exact absurd rfl hne
  | hop hhop hrest ih =>
    cases hrest with
    | here _ => exact hhop.content
    | hop hnext hlater => exact ih (by simp)

/-- What a library has under the names of a document, at first or from the file of a document that is so
named. -/
def Provides (t : FileTree) (l : Library) (d : DocPath) (content : Value) : Prop :=
  l.get? d = some content ∨ ∃ d' text, DocPath.key d' = d.key ∧ t.read d'.text = .ok text ∧
    Document.parse? text = some content

theorem GrownFrom.provides {content : Value} (h : GrownFrom t l l') (hcontent : l'.get? d = some content) :
    Provides t l d content := by
  cases hfirst : l.get? d with
  | some u =>
    obtain rfl := Option.some.inj ((h.keeps d u hfirst).symm.trans hcontent)
    exact .inl hfirst
  | none => exact .inr (h.reads d content hcontent hfirst)

/-- Where no document has a mark in its path, resolving is following references one at a time. It finds a
value exactly if a trail leads there and the value is no reference. It reports a cycle exactly if the chain
is endless, or if it comes to a document that is not there and whose path is written like a target met
before. A value found behind a reference is at some pointer of the document that it is said to be in. -/
theorem resolve_follows_trail (hplain : Plain t ⟨l, doc, v⟩) :
    (∀ d w l', resolve t l doc v = (.ok (d, w), l') ↔
      w.reference? = none ∧ ∃ targets, Trail t ⟨l, doc, v⟩ targets ⟨l', d, w⟩) ∧
    ((∃ r, (resolve t l doc v).1 = .error (.cyclic r)) ↔
      Endless t ⟨l, doc, v⟩ ∨ Collides t ⟨l, doc, v⟩) ∧
    ∀ d w l', v.reference? ≠ none → resolve t l doc v = (.ok (d, w), l') →
      ∃ content pointer, l'.get? d = some content ∧ Provides t l d content ∧
        Json.Pointer.find? content pointer = some w := by
  refine ⟨fun d w l' => resolve_ok_iff hplain, resolve_cyclic_iff hplain, fun d w l' hv hfound => ?_⟩
  obtain ⟨hw, targets, htrail⟩ := (resolve_ok_iff hplain).mp hfound
  have hne : targets ≠ [] := by
    rintro rfl
    cases htrail
    exact hv hw
  obtain ⟨content, pointer, hcontent, hvalue⟩ := htrail.content hne
  exact ⟨content, pointer, hcontent, htrail.grownFrom.provides hcontent, hvalue⟩

/-- One document that has been loaded, with a text under `b` and under `a` a reference to a file that is not
there. The path of this file is written like the document and the pointer to `a`. -/
def lookalike : Library :=
  empty.insert ⟨"/d/x"⟩
    (.object [("a", .object [("$ref", .string "file:///d/x%23/a")]), ("b", .string "here")])

theorem plain_lookalike (v : Value) : Plain .empty ⟨lookalike, ⟨"/d/index.yaml"⟩, v⟩ where
  readable path text htext := by
    obtain ⟨place, content, hlocate, -⟩ := FileTree.file_of_read htext
    rcases FileTree.mem_entries_of_locate hlocate with hroot | hmem
    · cases hroot
    · cases hmem
  loaded d u hu := by
    rw [lookalike, get?_insert] at hu
    split at hu
    · next hkey =>
      rw [DocPath.marked_congr hkey]
      decide
    · cases hu
  doc := (by decide : ¬ DocPath.Marked ⟨"/d/index.yaml"⟩)

theorem hop_lookalike {place p : String} {w : Value}
    (htarget : Target.ofReference .empty ⟨"/d/index.yaml"⟩ place = .ok ⟨⟨"/d/x"⟩, some p⟩)
    (hw : (lookalike.get? ⟨"/d/x"⟩).bind (Json.Pointer.find? · p) = some w) :
    Hop .empty ⟨lookalike, ⟨"/d/index.yaml"⟩, .object [("$ref", .string place)]⟩ ⟨⟨"/d/x"⟩, some p⟩
      ⟨lookalike, ⟨"/d/x"⟩, w⟩ := by
  obtain ⟨content, hcontent, hw⟩ := Option.bind_eq_some_iff.mp hw
  exact ⟨⟨place, rfl, htarget⟩, ⟨content, load_of_get? .empty hcontent, hw⟩, rfl⟩

theorem resolve_follows_trail_lookalike :
    Plain .empty ⟨lookalike, ⟨"/d/index.yaml"⟩, .object [("$ref", .string "x#/b")]⟩ ∧
      resolve .empty lookalike ⟨"/d/index.yaml"⟩ (.object [("$ref", .string "x#/b")]) =
        (.ok (⟨"/d/x"⟩, .string "here"), lookalike) :=
  ⟨plain_lookalike _, ((resolve_follows_trail (plain_lookalike _)).1 _ _ _).mpr
    ⟨rfl, [⟨⟨"/d/x"⟩, some "/b"⟩], .hop (hop_lookalike (by decide +kernel) rfl) (.here _)⟩⟩

/-- The chain to `a` ends at a file that cannot be read, but resolving calls it a cycle. -/
theorem cyclic_but_not_endless :
    Plain .empty ⟨lookalike, ⟨"/d/index.yaml"⟩, .object [("$ref", .string "x#/a")]⟩ ∧
      (resolve .empty lookalike ⟨"/d/index.yaml"⟩ (.object [("$ref", .string "x#/a")])).1 =
        .error (.cyclic "file:///d/x%23/a") ∧
      ¬ Endless .empty ⟨lookalike, ⟨"/d/index.yaml"⟩, .object [("$ref", .string "x#/a")]⟩ := by
  have hindex : Target.ofReference .empty ⟨"/d/index.yaml"⟩ "x#/a" = .ok ⟨⟨"/d/x"⟩, some "/a"⟩ := by
    decide +kernel
  have hfile : Target.ofReference .empty ⟨"/d/x"⟩ "file:///d/x%23/a" = .ok ⟨⟨"/d/x#/a"⟩, none⟩ := by
    decide +kernel
  have hhop := hop_lookalike hindex rfl
  have hlost : lookalike.load .empty ⟨"/d/x#/a"⟩ = .error (.unreadable "/d/x#/a" .notFound) := by
    have hread : FileTree.empty.read "/d/x#/a" = .error .notFound := by decide +kernel
    have hnew : lookalike.get? ⟨"/d/x#/a"⟩ = none := by
      rw [lookalike, get?_insert, if_neg (by decide)]
      rfl
    simp [load, hnew, hread]
  refine ⟨plain_lookalike _, ?_, (Trail.hop hhop (.here _)).not_endless (stuck_of_load ⟨rfl, hfile⟩ hlost)⟩
  have hfollows : Follows .empty [] lookalike ⟨"/d/index.yaml"⟩ (.object [("$ref", .string "x#/a")])
      (.error (.cyclic "file:///d/x%23/a"), lookalike) :=
    .step rfl hindex (by simp) (hhop.fetch "x#/a") (.cyclic rfl hfile (by decide))
  rw [← (follows_iff_eq_resolve _ _ _ _ _).mp hfollows]

end Library
end ApiToolbox
