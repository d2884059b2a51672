import ApiToolbox.Proofs.FileTree
import ApiToolbox.Proofs.Steps
import ApiToolbox.Reference

/-! Libraries that grow. A document is kept under its names, and is read from the file at its path. The
two agree unless the path strays: unless it leads nowhere, though its names lead to a file. -/

namespace ApiToolbox

open Json (Value)

namespace DocPath

/-- What the names of a document lead to, without those that do not count. -/
def place? (t : FileTree) (d : DocPath) : Except FileError (List String × FileEntry) :=
  t.follow FileTree.linkLimit (if d.key.1 then [] else t.current)
    (d.key.2.filter fun n => ¬ FileTree.IsIdle n)

/-- The path leads nowhere, though its names lead to a file. So it is with an idle name behind a file. -/
structure Strays (t : FileTree) (d : DocPath) : Prop where
  nowhere : ∃ e, t.locate d.text = .error e
  file : ∃ place content, d.place? t = .ok (place, .file content)

theorem strays_iff {t : FileTree} {d : DocPath} : Strays t d ↔
    (t.locate d.text).toOption = none ∧
      (d.place? t).toOption.any fun (_, e) => e matches .file _ := by
  constructor
  · rintro ⟨⟨e, hnowhere⟩, place, content, hfile⟩
    simp [hnowhere, hfile, Except.toOption]
  · rintro ⟨hnowhere, hfile⟩
    constructor
    · cases hlocate : t.locate d.text with
      | error e => exact ⟨e, rfl⟩
      | ok r => simp [hlocate, Except.toOption] at hnowhere
    · cases hplace : d.place? t with
      | error e => simp [hplace, Except.toOption] at hfile
      | ok r =>
        obtain ⟨place, _ | _ | _⟩ := r
        · exact ⟨place, _, rfl⟩
        · simp [hplace, Except.toOption] at hfile
        · simp [hplace, Except.toOption] at hfile

instance (t : FileTree) (d : DocPath) : Decidable (Strays t d) := decidable_of_iff _ strays_iff.symm

theorem filter_key (d : DocPath) : d.key.2.filter (fun n => ¬ FileTree.IsIdle n) =
    (FileTree.names d.text).filter fun n => ¬ FileTree.IsIdle n := by
  have hsame : (FileTree.names d.text).filter (fun n => n ≠ "" && n ≠ ".") =
      (FileTree.names d.text).filter fun n => ¬ FileTree.IsIdle n :=
    List.filter_congr fun n _ => by simp [FileTree.IsIdle]
  have hidle : FileTree.IsIdle "." := .inr rfl
  simp only [key, hsame]
  split
  · rw [List.filter_cons_of_neg (by simpa using hidle), List.filter_filter]
    simp
  · rw [List.filter_filter]
    simp

variable {t : FileTree} {d d' : DocPath}

theorem place?_of_locate {r : List String × FileEntry} (h : t.locate d.text = .ok r) :
    d.place? t = .ok r := by
  unfold FileTree.locate at h
  split at h
  · cases h
  · split at h
    · cases h
    · rw [place?, filter_key]
      exact FileTree.follow_of_drops (FileTree.drops_filter _) h

/-- A document that does not stray is that of every path with its names. -/
theorem read_of_key_eq (hkey : d'.key = d.key) (hd : ¬ Strays t d) {text : String}
    (h : t.read d'.text = .ok text) : t.read d.text = .ok text := by
  obtain ⟨place, bytes, hplace, -⟩ := FileTree.file_of_read h
  have hfile : d.place? t = .ok (place, .file bytes) := by
    rw [← place?_of_locate hplace, place?, place?, hkey]
  cases hlocate : t.locate d.text with
  | error e => exact absurd ⟨⟨e, hlocate⟩, ⟨place, bytes, hfile⟩⟩ hd
  | ok r =>
    obtain rfl := Except.ok.inj ((place?_of_locate hlocate).symm.trans hfile)
    rwa [FileTree.read, FileTree.readBytes, hlocate, ← hplace]

end DocPath

namespace Library

theorem get?_insert (l : Library) (d d' : DocPath) (v : Value) :
    (l.insert d v).get? d' = if d'.key = d.key then some v else l.get? d' := by
  by_cases h : d'.key = d.key
  · simp [get?, insert, h]
  · have hothers : (fun e : (Bool × List String) × Value =>
        decide (decide (e.1 ≠ d.key) = true ∧ decide (e.1 = d'.key) = true)) =
        fun e => decide (e.1 = d'.key) := by
      funext e
      by_cases he : e.1 = d'.key
      · simp [he, h]
      · simp [he]
    rw [get?, insert, List.find?_cons_of_neg (by simpa using Ne.symm h), List.find?_filter, hothers,
      if_neg h, get?]

variable {t : FileTree} {l₀ l l' : Library} {d : DocPath} {v : Value}

/-- A library that has grown from another by reading files: it has what that one had, and all else that
it has stands in a file of its names. -/
structure GrownFrom (t : FileTree) (l₀ l : Library) : Prop where
  keeps : ∀ d v, l₀.get? d = some v → l.get? d = some v
  reads : ∀ d v, l.get? d = some v → l₀.get? d = none → ∃ d' text, DocPath.key d' = d.key ∧
    t.read d'.text = .ok text ∧ Document.parse? text = some v

theorem GrownFrom.refl (t : FileTree) (l : Library) : GrownFrom t l l where
  keeps _ _ h := h
  reads d v h hnone := by simp [hnone] at h

/-- A document comes from the library, which stays as it is, or from the file at its path, and is kept
then. -/
theorem load_eq_ok_iff : l.load t d = .ok (v, l') ↔ (l.get? d = some v ∧ l' = l) ∨
    (l.get? d = none ∧ (∃ text, t.read d.text = .ok text ∧ Document.parse? text = some v) ∧
      l' = l.insert d v) := by
  unfold load
  cases l.get? d with
  | some u => simp [Prod.ext_iff, eq_comm]
  | none =>
    cases t.read d.text with
    | error e => simp
    | ok text =>
      cases hparse : Document.parse? text with
      | none => simp [hparse]
      | some u =>
        suffices h : u = v ∧ l.insert d u = l' ↔ u = v ∧ l' = l.insert d v by simpa [hparse] using h
        constructor
        · rintro ⟨rfl, rfl⟩
          exact ⟨rfl, rfl⟩
        · rintro ⟨rfl, rfl⟩
          exact ⟨rfl, rfl⟩

theorem GrownFrom.of_load (h : GrownFrom t l₀ l) (hload : l.load t d = .ok (v, l')) :
    GrownFrom t l₀ l' := by
  rcases load_eq_ok_iff.mp hload with ⟨-, rfl⟩ | ⟨hnew, ⟨text, htext, hv⟩, rfl⟩
  · exact h
  constructor
  · intro d' v' hd'
    have hkept := h.keeps d' v' hd'
    have hne : d'.key ≠ d.key := by
      intro heq
      rw [get?, heq] at hkept
      rw [get?] at hnew
      simp [hnew] at hkept
    rw [get?_insert, if_neg hne, hkept]
  · intro d' v' hd' hnone
    rw [get?_insert] at hd'
    split at hd'
    · next heq =>
      obtain rfl := Option.some.inj hd'
      exact ⟨d, text, heq.symm, htext, hv⟩
    · exact h.reads d' v' hd' hnone

/-- A document that does not stray is loaded the same way by the library at first and later. -/
theorem map_load (h : GrownFrom t l₀ l) (hd : l₀.get? d = none → ¬ d.Strays t) :
    (l.load t d).map (·.1) = (l₀.load t d).map (·.1) := by
  cases hfirst : l₀.get? d with
  | some v => simp [load, hfirst, h.keeps d v hfirst, Except.map]
  | none =>
    cases hlater : l.get? d with
    | none =>
      simp only [load, hfirst, hlater]
      cases t.read d.text with
      | error e => rfl
      | ok text =>
        simp only
        cases Document.parse? text with
        | none => rfl
        | some v => rfl
    | some v =>
      obtain ⟨d', text, hkey, htext, hv⟩ := h.reads d v hlater hfirst
      have hread := DocPath.read_of_key_eq hkey (hd hfirst) htext
      simp [load, hfirst, hlater, hread, hv, Except.map]

theorem fst_fetch (t : FileTree) (l : Library) (reference : String) (target : Target) :
    (l.fetch t reference target).1 = ((l.load t target.doc).map (·.1)).bind fun v =>
      match target.pointer with
      | none => .ok v
      | some p =>
        match Json.Pointer.find? v p with
        | some w => .ok w
        | none => .error (.dangling reference target.doc.text p) := by
  unfold fetch
  cases l.load t target.doc with
  | error e => rfl
  | ok loaded =>
    simp only [Except.map, Except.bind]
    cases target.pointer with
    | none => rfl
    | some p =>
      simp only
      cases Json.Pointer.find? loaded.1 p with
      | none => rfl
      | some w => rfl

theorem GrownFrom.snd_fetch (h : GrownFrom t l₀ l) (reference : String) (target : Target) :
    GrownFrom t l₀ (l.fetch t reference target).2 := by
  unfold fetch
  cases hload : l.load t target.doc with
  | error e => exact h
  | ok loaded =>
    have hgrown := h.of_load hload
    simp only
    split
    · exact hgrown
    · split
      · exact hgrown
      · exact hgrown

/-- Fetching the value at a target, as a step of a load. -/
def fetching (t : FileTree) (reference : String) (target : Target) :
    StateM Library (Except ReferenceError Value) :=
  fun l => l.fetch t reference target

/-- Fetching is oblivious of what has been read, unless the document strays. -/
theorem oblivious_fetching (reference : String) (target : Target) :
    Oblivious (GrownFrom t l₀) l₀ (l₀.get? target.doc = none → ¬ target.doc.Strays t)
      (fetching t reference target) fun r => (l₀.fetch t reference target).1 = r where
  good _ hl := hl.snd_fetch reference target
  same hd l hl := by
    have hsame := map_load hl hd
    have hfetch : (l.fetch t reference target).1 = (l₀.fetch t reference target).1 := by
      rw [fst_fetch, fst_fetch, hsame]
    exact hfetch
  gives _ := rfl

/-! ### One reference after the other -/

/-- Following references, as a step of a load. -/
def following (t : FileTree) (fuel : Nat) (seen : List String) (doc : DocPath) (v : Value) :
    StateM Library (Except ReferenceError (DocPath × Value)) :=
  fun l => follow t fuel seen l doc v

/-- One reference: `next` says what to do at a target that has not been met. -/
def chase (t : FileTree) (seen : List String) (doc : DocPath) (v : Value)
    (next : String → Target → StateM Library (Except ReferenceError (DocPath × Value))) :
    StateM Library (Except ReferenceError (DocPath × Value)) :=
  match v.reference? with
  | none => return .ok (doc, v)
  | some reference =>
    match Target.ofReference t doc reference with
    | .error e => return .error e
    | .ok target =>
      if target.label ∈ seen then return .error (.cyclic reference) else next reference target

theorem following_zero (t : FileTree) (seen : List String) (doc : DocPath) (v : Value) :
    following t 0 seen doc v = chase t seen doc v fun reference _ => return .error (.cyclic reference) := by
  funext l
  rw [following, follow, chase]
  cases v.reference? with
  | none => rfl
  | some reference =>
    simp only
    cases Target.ofReference t doc reference with
    | error e => rfl
    | ok target =>
      by_cases hseen : target.label ∈ seen
      · simp only [if_pos hseen]
        rfl
      · simp only [if_neg hseen]
        rfl

theorem following_succ (t : FileTree) (fuel : Nat) (seen : List String) (doc : DocPath) (v : Value) :
    following t (fuel + 1) seen doc v = chase t seen doc v (fun reference target => do
      match ← fetching t reference target with
      | .error e => return .error e
      | .ok w => following t fuel (target.label :: seen) target.doc w) := by
  funext l
  rw [following, follow, chase]
  cases v.reference? with
  | none => rfl
  | some reference =>
    simp only
    cases Target.ofReference t doc reference with
    | error e => rfl
    | ok target =>
      by_cases hseen : target.label ∈ seen
      · simp only [if_pos hseen]
        rfl
      · simp only [if_neg hseen]
        show _ = StateT.bind (fetching t reference target) _ l
        rw [StateT.bind, fetching]
        rcases l.fetch t reference target with ⟨e | w, l'⟩
        · rfl
        · rfl

end Library
end ApiToolbox
