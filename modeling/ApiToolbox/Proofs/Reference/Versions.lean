import ApiToolbox.Proofs.FileTree.Shape
import ApiToolbox.Proofs.Json.Equality
import ApiToolbox.Proofs.Reference.Trail

/-! One version of each document. While references are followed, one value after the other, the files may be
overwritten. What has been loaded is not read again, so a value that has been resolved is resolved to the same
from then on. -/

namespace ApiToolbox

open Json (Value)

/-! ### Targets and the shape of a tree -/

namespace Target

variable {t t' : FileTree}

theorem document_congr (h : t.SameShape t') (base : DocPath) (part : String) :
    document t base part = document t' base part := by
  have hlocate (path : String) : DocPath.locate t path = .locate t' path :=
    congrArg DocPath.mk (FileTree.canonical_congr h path)
  simp only [document, hlocate]

/-- What a reference denotes does not depend on what files hold. -/
theorem ofReference_congr (h : t.SameShape t') (base : DocPath) (r : String) :
    ofReference t base r = ofReference t' base r := by
  rw [ofReference_eq, ofReference_eq, document_congr h]

end Target

namespace Library

/-! ### Runs -/

/-- The files, and what has been loaded from them. -/
structure Session where
  tree : FileTree
  library : Library

/-- What happens to a session: references are followed from a value in a document, with what is found, or
what a file holds is replaced. -/
inductive Event where
  | resolved (doc : DocPath) (v : Value) (found : Except ReferenceError (DocPath × Value))
  | overwritten (path : String) (content : List UInt8)

/-- One thing happens. A file is overwritten only where there is one. -/
inductive Step : Session → Event → Session → Prop where
  | resolve (s : Session) (doc : DocPath) (v : Value) :
      Step s (.resolved doc v (resolve s.tree s.library doc v).1)
        ⟨s.tree, (resolve s.tree s.library doc v).2⟩
  | overwrite (s : Session) {path : String} {place : List String} {old : List UInt8}
      (h : s.tree.locate path = .ok (place, .file old)) (content : List UInt8) :
      Step s (.overwritten path content) ⟨s.tree.write path content, s.library⟩

/-- One thing happens after the other. -/
inductive Run : Session → List Event → Session → Prop where
  | nil (s : Session) : Run s [] s
  | cons {s s' s'' : Session} {e : Event} {es : List Event} (h : Step s e s') (hrest : Run s' es s'') :
      Run s (e :: es) s''

theorem Step.eq_of_resolved {s s' : Session} {doc : DocPath} {v : Value}
    {found : Except ReferenceError (DocPath × Value)} (h : Step s (.resolved doc v found) s') :
    found = (Library.resolve s.tree s.library doc v).1 ∧
      s' = ⟨s.tree, (Library.resolve s.tree s.library doc v).2⟩ := by
  cases h
  exact ⟨rfl, rfl⟩

/-- A run up to some event, the event, and the run behind it. -/
theorem Run.split {s s' : Session} {as bs : List Event} {e : Event} (h : Run s (as ++ e :: bs) s') :
    ∃ s₁ s₂, Run s as s₁ ∧ Step s₁ e s₂ ∧ Run s₂ bs s' := by
  induction as generalizing s with
  | nil =>
    cases h with
    | cons hstep hrest => exact ⟨s, _, .nil s, hstep, hrest⟩
  | cons a rest ih =>
    cases h with
    | cons hstep hrest =>
      obtain ⟨s₁, s₂, hfront, he, hback⟩ := ih hrest
      exact ⟨s₁, s₂, .cons hstep hfront, he, hback⟩

/-! ### What stays -/

/-- A session later on: the tree has its shape, and the library all that it had. -/
structure Session.Later (s s' : Session) : Prop where
  shape : s.tree.SameShape s'.tree
  keeps : ∀ d v, s.library.get? d = some v → s'.library.get? d = some v

theorem grownFrom_resolve (t : FileTree) (l : Library) (doc : DocPath) (v : Value) :
    GrownFrom t l (resolve t l doc v).2 := by
  obtain ⟨targets, s, htrail, -, hstops⟩ := exists_trail_of_resolve t l doc v
  have hgrown := htrail.grownFrom
  generalize resolve t l doc v = found at hstops
  cases hstops with
  | value _ | astray _ _ | cyclic _ _ => exact hgrown
  | @lost r target e l' _ _ h =>
    have hlost : (s.library.fetch t r target).2 = l' := by rw [h]
    exact hlost ▸ hgrown.snd_fetch r target

theorem Step.later {s s' : Session} {e : Event} (h : Step s e s') : s.Later s' := by
  cases h with
  | resolve doc v => exact ⟨.refl s.tree, (grownFrom_resolve s.tree s.library doc v).keeps⟩
  | overwrite h content => exact ⟨FileTree.sameShape_write h content, fun _ _ hd => hd⟩

theorem Run.later {s s' : Session} {es : List Event} (h : Run s es s') : s.Later s' := by
  induction h with
  | nil s => exact ⟨.refl s.tree, fun _ _ hd => hd⟩
  | cons hstep _ ih =>
    have hfirst := hstep.later
    exact ⟨hfirst.shape.trans ih.shape, fun d v hd => ih.keeps d v (hfirst.keeps d v hd)⟩

/-! ### Resolving again -/

/-- Once references have been followed to a value, they are followed to it later. -/
theorem resolve_later {t : FileTree} {l l' : Library} {s : Session} {doc d : DocPath} {v w : Value}
    (h : resolve t l doc v = (.ok (d, w), l')) (hlater : Session.Later ⟨t, l'⟩ s) :
    resolve s.tree s.library doc v = (.ok (d, w), s.library) := by
  obtain ⟨targets, stand, htrail, hnodup, hstops⟩ := exists_trail_of_resolve t l doc v
  rw [h] at hstops
  cases hstops with
  | value hvalue =>
    have hagain := htrail.replay (fun d r => (Target.ofReference_congr hlater.shape d r).symm) hlater.keeps
    exact hagain.resolve hnodup (.value hvalue)

/-- A value that has been resolved once is resolved to the same document and value whenever it is resolved again
in that document, whatever else is resolved in between, with or without success, and whichever files are
overwritten. -/
theorem resolve_once {s s' : Session} {before between after : List Event} {doc : DocPath} {v : Value}
    {found : DocPath × Value} {again : Except ReferenceError (DocPath × Value)}
    (h : Run s (before ++ .resolved doc v (.ok found) :: (between ++ .resolved doc v again :: after)) s') :
    again = .ok found := by
  obtain ⟨s₁, s₂, -, hfirst, hrest⟩ := h.split
  obtain ⟨s₃, s₄, hbetween, hagain, -⟩ := hrest.split
  obtain ⟨hfound, rfl⟩ := hfirst.eq_of_resolved
  obtain ⟨rfl, -⟩ := hagain.eq_of_resolved
  rw [resolve_later (Prod.ext hfound.symm rfl) hbetween.later]

/-- The file is overwritten with a text that is no document, and a file that is not there is asked for. The
reference leads to what the file held at first. -/
theorem resolve_once_overwritten :
    let bytes (text : String) : List UInt8 := Text.Utf8.encode text.toList
    let refer (r : String) : Value := .object [("$ref", .string r)]
    let index : DocPath := ⟨"/index.yaml"⟩
    let s : Session := ⟨⟨[(["user.yaml"], .file (bytes "name: Ann\n"))], []⟩, .empty⟩
    let found : DocPath × Value := (⟨"/user.yaml"⟩, .string "Ann")
    let between : List Event := [.overwritten "user.yaml" (bytes "name: ["),
      .resolved index (refer "gone.yaml") (.error (.unreadable "/gone.yaml" .notFound))]
    ∃ s' again, again = .ok found ∧ Run s ([] ++ .resolved index (refer "user.yaml#/name") (.ok found) ::
      (between ++ .resolved index (refer "user.yaml#/name") again :: [])) s' := by
  intro bytes refer index s found between
  let v := refer "user.yaml#/name"
  let s₁ : Session := ⟨s.tree, (resolve s.tree s.library index v).2⟩
  let s₂ : Session := ⟨s₁.tree.write "user.yaml" (bytes "name: ["), s₁.library⟩
  let s₃ : Session := ⟨s₂.tree, (resolve s₂.tree s₂.library index (refer "gone.yaml")).2⟩
  let s₄ : Session := ⟨s₃.tree, (resolve s₃.tree s₃.library index v).2⟩
  have hfirst : (resolve s.tree s.library index v).1 = .ok found := by decide +kernel
  have hthere : s₁.tree.locate "user.yaml" = .ok (["user.yaml"], .file (bytes "name: Ann\n")) := by
    decide +kernel
  have hgone : (resolve s₂.tree s₂.library index (refer "gone.yaml")).1 =
      .error (.unreadable "/gone.yaml" .notFound) := by
    decide +kernel
  have hrun : Run s ([] ++ .resolved index v (.ok found) ::
      (between ++ .resolved index v (resolve s₃.tree s₃.library index v).1 :: [])) s₄ :=
    .cons (hfirst ▸ .resolve s index v) (.cons (.overwrite s₁ hthere _)
      (.cons (hgone ▸ .resolve s₂ index (refer "gone.yaml")) (.cons (.resolve s₃ index v) (.nil s₄))))
  exact ⟨s₄, _, resolve_once hrun, hrun⟩

end Library
end ApiToolbox
