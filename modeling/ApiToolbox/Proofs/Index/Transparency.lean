import ApiToolbox.Proofs.Index.Entrywise
import ApiToolbox.Proofs.Reference.Growth

/-! References and what they stand for. Where the load follows a reference, the value that it leads to can be
written in its place, if no further references are in that value. The path document is the same, unless a
reference that is left is to a document whose path strays: whether such a document can be had may depend on
whether another reference has been followed before it. -/

namespace ApiToolbox.Index

open Json (Value)
open Library (GrownFrom)

/-! ### Values with some references replaced -/

section Resolved

variable (s : Source) (l : Library) (doc : DocPath)

/-- A value is kept, with what `Kept` allows inside, or replaced by what references lead to from it. -/
inductive Resolved (Kept : Value → Value → Prop) : Value → Value → Prop where
  | kept {v v' : Value} (h : Kept v v') : Resolved Kept v v'
  | found {v w : Value} {d : DocPath} (h : ((s.resolve doc v).run l).1 = .ok (d, w))
      (hw : Library.references w = []) : Resolved Kept v w

/-- A list of parameters in which some are replaced. -/
inductive ResolvedItems : Value → Value → Prop where
  | same (v : Value) : ResolvedItems v v
  | items {vs vs' : List Value} (h : List.Forall₂ (Resolved s l doc Eq) vs vs') :
      ResolvedItems (.array vs) (.array vs')

/-- A mapping with the same keys, where the value under each key is as `Under` says. -/
inductive ResolvedMembers (Under : String → Value → Value → Prop) : Value → Value → Prop where
  | same (v : Value) : ResolvedMembers Under v v
  | members {ms ms' : Members Value}
      (h : List.Forall₂ (fun m m' => m.1 = m'.1 ∧ Under m.1 m.2 m'.2) ms ms') :
      ResolvedMembers Under (.object ms) (.object ms')

/-- What may be replaced in the block of a method: its own parameters, and its body. -/
def resolvedInBlock (key : String) : Value → Value → Prop :=
  if key = "parameters" then ResolvedItems s l doc
  else if key = "requestBody" then Resolved s l doc Eq
  else Eq

/-- What may be replaced in an entry: the parameters that its methods share, the blocks of methods, and what
may be replaced in these. -/
def resolvedInEntry (key : String) : Value → Value → Prop :=
  if key = "parameters" then ResolvedItems s l doc
  else if key ∈ Method.all.map Method.key then
    Resolved s l doc (ResolvedMembers (resolvedInBlock s l doc))
  else Eq

/-- An entry in which references are replaced by what they lead to, or that is itself replaced. -/
def ResolvedEntry : Value → Value → Prop :=
  Resolved s l doc (ResolvedMembers (resolvedInEntry s l doc))

end Resolved

section

variable {s : Source} {l : Library} {doc doc' : DocPath} {v v' : Value} {ms ms' : Members Value}

theorem resolvedInBlock_same (key : String) (v : Value) : resolvedInBlock s l doc key v v := by
  unfold resolvedInBlock
  split_ifs
  · exact .same v
  · exact .kept rfl
  · rfl

theorem resolvedInEntry_same (key : String) (v : Value) : resolvedInEntry s l doc key v v := by
  unfold resolvedInEntry
  split_ifs
  · exact .same v
  · exact .kept (.same v)
  · rfl

theorem resolvedInEntry_method (method : Method) : resolvedInEntry s l doc method.key =
    Resolved s l doc (ResolvedMembers (resolvedInBlock s l doc)) := by
  cases method <;> rfl

theorem rel_get? {Under : String → Value → Value → Prop}
    (h : List.Forall₂ (fun m m' => m.1 = m'.1 ∧ Under m.1 m.2 m'.2) ms ms') (key : String) :
    Option.Rel (Under key) (ms.get? key) (ms'.get? key) := by
  induction h with
  | nil => exact .none
  | @cons m m' rest rest' hm _ ih =>
    obtain ⟨k, v⟩ := m
    obtain ⟨k', v'⟩ := m'
    obtain ⟨rfl, hunder⟩ := hm
    rw [Members.get?, Members.get?]
    split_ifs with hk
    · exact .some (hk ▸ hunder)
    · exact ih

theorem get?_eq_of_forall₂ {Under : String → Value → Value → Prop} {key : String}
    (h : List.Forall₂ (fun m m' => m.1 = m'.1 ∧ Under m.1 m.2 m'.2) ms ms')
    (hkey : ∀ w w', Under key w w' → w = w') : ms.get? key = ms'.get? key := by
  have hrel := rel_get? h key
  generalize ms.get? key = found at hrel
  generalize ms'.get? key = found' at hrel
  cases hrel with
  | none => rfl
  | some hunder => rw [hkey _ _ hunder]

theorem reference?_of_resolvedMembers {Under : String → Value → Value → Prop}
    (hkey : ∀ w w', Under "$ref" w w' → w = w') (h : ResolvedMembers Under v v') :
    v.reference? = v'.reference? := by
  cases h with
  | same => rfl
  | members h => exact congrArg (·.bind Value.string?) (get?_eq_of_forall₂ h hkey)

/-! ### Values that are loaded alike -/

/-- Values, each in its document, that are loaded alike: those in one document that are so related, if no
reference strays, and values without references. -/
inductive Alike (s : Source) (l : Library) (R : DocPath → Value → Value → Prop) (doc : DocPath) (v : Value) :
    DocPath → Value → Prop where
  | here {v' : Value} (h : R doc v v') (hsteady : Steady s.tree l doc v') : Alike s l R doc v doc v'
  | free (doc' : DocPath) (h : Library.references v = []) : Alike s l R doc v doc' v

theorem Alike.eq (h : Alike s l (fun _ => Eq) doc v doc' v') : v = v' := by
  cases h with
  | here h _ => exact h
  | free _ _ => rfl

/-- Results that are alike: the same error, or values that are loaded alike. -/
inductive EndsAlike (s : Source) (l : Library) (R : DocPath → Value → Value → Prop) :
    Except ReferenceError (DocPath × Value) → Except ReferenceError (DocPath × Value) → Prop where
  | error (e : ReferenceError) : EndsAlike s l R (.error e) (.error e)
  | value {d d' : DocPath} {w w' : Value} (h : Alike s l R d w d' w') :
      EndsAlike s l R (.ok (d, w)) (.ok (d', w'))

theorem Source.resolve_of_value (s : Source) (doc : DocPath) (h : v.reference? = none) :
    s.resolve doc v = pure (.ok (doc, v)) := by
  funext l
  exact Library.follow_eq_ok_iff.mpr (.inl ⟨h, rfl⟩)

theorem Source.resolve_congr (s : Source) (doc : DocPath) {r : String} (h : v.reference? = some r)
    (h' : v'.reference? = some r) : s.resolve doc v = s.resolve doc v' := by
  funext l
  unfold Source.resolve Library.resolveWithin Library.follow
  rw [h, h']

theorem reference?_of_references (h : Library.references v = []) : v.reference? = none := by
  by_contra hsome
  obtain ⟨r, hr⟩ := Option.ne_none_iff_exists'.mp hsome
  have hmem := Library.mem_references hr
  rw [h] at hmem
  cases hmem

/-- References are followed alike from values that are alike. Behind them nothing is replaced any more. -/
theorem agrees_resolve {Kept : DocPath → Value → Value → Prop} (hsame : ∀ d w, Kept d w w)
    (hreference : ∀ d w w', Kept d w w' → w.reference? = w'.reference?)
    (h : Alike s l (fun d => Resolved s l d (Kept d)) doc v doc' v') :
    Agrees (GrownFrom s.tree l) (s.resolve doc v) (s.resolve doc' v') (EndsAlike s l Kept) := by
  cases h with
  | free _ h =>
    have hvalue := reference?_of_references h
    rw [s.resolve_of_value doc hvalue, s.resolve_of_value doc' hvalue]
    exact .pure (.value (.free doc' h))
  | here h hsteady =>
    cases h with
    | found h hw =>
      rw [s.resolve_of_value doc (reference?_of_references hw)]
      exact
        { good := (oblivious_resolve s doc v).good
          good' := fun _ hl => hl
          gives := fun l₁ _ hl₁ _ => by
            have hagain : ((s.resolve doc v).run l₁).1 = .ok (_, v') := hl₁.fst_resolveWithin h
            rw [hagain]
            exact .value (.free doc hw) }
    | kept h =>
      cases hr : v'.reference? with
      | none =>
        rw [s.resolve_of_value doc ((hreference doc v v' h).trans hr), s.resolve_of_value doc hr]
        exact .pure (.value (.here h hsteady))
      | some r =>
        rw [s.resolve_congr doc ((hreference doc v v' h).trans hr) hr]
        have hagrees := (oblivious_resolve s doc v').agrees hsteady
        refine ⟨hagrees.good, hagrees.good', fun l₁ l₂ hl₁ hl₂ => ?_⟩
        obtain ⟨heq, hends⟩ := hagrees.gives l₁ l₂ hl₁ hl₂
        rw [← heq]
        generalize ((s.resolve doc v').run l₁).1 = found at hends
        cases found with
        | error e => exact .error e
        | ok found => exact .value (.here (hsame _ _) (hends _ _ rfl))

/-! ### Mappings and lists that are alike -/

/-- Mappings, each in its document, with values that are alike where the load goes on, and the same values
under the keys where nothing may be replaced. -/
structure MembersAlike (s : Source) (l : Library) (Under : DocPath → String → Value → Value → Prop)
    (doc : DocPath) (ms : Members Value) (doc' : DocPath) (ms' : Members Value) : Prop where
  followed : ∀ key ∈ followedKeys, Option.Rel
    (fun w w' => Alike s l (fun d => Under d key) doc w doc' w') (ms.get? key) (ms'.get? key)
  same : ∀ key, (∀ w w', Under doc key w w' → w = w') → ms.get? key = ms'.get? key

variable {Under : DocPath → String → Value → Value → Prop}

theorem membersAlike_free (doc' : DocPath) (h : Library.references (.object ms) = []) :
    MembersAlike s l Under doc ms doc' ms where
  followed key _ := by
    cases hw : ms.get? key with
    | none => exact .none
    | some w =>
      have hsub := Library.references_subset_members (Members.mem_of_get? hw)
      exact .some (.free doc' (List.subset_nil.mp (h ▸ hsub)))
  same _ _ := rfl

theorem membersAlike_here (h : List.Forall₂ (fun m m' => m.1 = m'.1 ∧ Under doc m.1 m.2 m'.2) ms ms')
    (hsteady : Steady s.tree l doc (.object ms')) : MembersAlike s l Under doc ms doc ms' where
  followed key hkey := by
    have hrel := rel_get? h key
    have hmember (w' : Value) (hw' : ms'.get? key = some w') : Steady s.tree l doc w' :=
      hsteady.member rfl hkey hw'
    generalize ms.get? key = found at hrel
    generalize ms'.get? key = found' at hrel hmember
    cases hrel with
    | none => exact .none
    | some hunder => exact .some (.here hunder (hmember _ rfl))
  same _ hkey := get?_eq_of_forall₂ h hkey

theorem rel_members? (hsame : ∀ d key w, Under d key w w)
    (h : Alike s l (fun d => ResolvedMembers (Under d)) doc v doc' v') :
    Option.Rel (fun ms ms' => MembersAlike s l Under doc ms doc' ms') v.members? v'.members? := by
  cases h with
  | free _ h =>
    cases v with
    | object ms => exact .some (membersAlike_free doc' h)
    | _ => exact .none
  | here h hsteady =>
    cases h with
    | members h => exact .some (membersAlike_here h hsteady)
    | same =>
      cases v with
      | object ms =>
        exact .some (membersAlike_here (List.forall₂_same.mpr fun m _ => ⟨rfl, hsame doc m.1 m.2⟩) hsteady)
      | _ => exact .none

/-- Lists of parameters that are alike have items that are. -/
theorem forall₂_items {v v' : Option Value}
    (h : Option.Rel (fun w w' => Alike s l (ResolvedItems s l) doc w doc' w') v v') :
    List.Forall₂ (fun w w' => Alike s l (fun d => Resolved s l d Eq) doc w doc' w')
      ((v.bind Value.items?).getD []) ((v'.bind Value.items?).getD []) := by
  cases h with
  | none => exact .nil
  | @some v _ h =>
    cases h with
    | free _ h =>
      refine List.forall₂_same.mpr fun w hw => ?_
      obtain ⟨vs, heq, hmem⟩ := Value.exists_of_mem_items hw
      obtain rfl := Option.some.inj heq
      exact .free doc' (List.subset_nil.mp (h ▸ Library.references_subset_items hmem))
    | here h hsteady =>
      cases h with
      | same =>
        refine List.forall₂_same.mpr fun w hw => ?_
        obtain ⟨vs, heq, hmem⟩ := Value.exists_of_mem_items hw
        obtain rfl := Option.some.inj heq
        exact .here (.kept rfl) (hsteady.of_reaches (Reaches.start.item hmem))
      | @items vs vs' h =>
        have hitems : ∀ w' ∈ vs', Steady s.tree l doc w' := fun w' hw' =>
          hsteady.of_reaches (Reaches.start.item hw')
        clear hsteady
        show List.Forall₂ _ vs vs'
        induction h with
        | nil => exact .nil
        | cons hw _ ih =>
          obtain ⟨hw', hrest⟩ := List.forall_mem_cons.mp hitems
          exact .cons (.here hw hw') (ih hrest)

/-! ### The load of values that are alike -/

/-- What is read off the value behind references is the same. -/
theorem agrees_read {β : Type} (read : Value → Option β)
    (h : Alike s l (fun d => Resolved s l d Eq) doc v doc' v') :
    let c (doc : DocPath) (v : Value) : StateM Library (Option β) := do
      match ← s.resolve doc v with
      | .ok (_, v) => return read v
      | .error _ => return none
    Agrees (GrownFrom s.tree l) (c doc v) (c doc' v') Eq := by
  refine (agrees_resolve (fun _ _ => rfl) (fun _ _ _ => congrArg _) h).bind fun found found' hfound => ?_
  cases hfound with
  | error e => exact .pure rfl
  | value h =>
    obtain rfl := h.eq
    exact .pure rfl

theorem agrees_parameters {v v' : Option Value}
    (h : Option.Rel (fun w w' => Alike s l (ResolvedItems s l) doc w doc' w') v v') :
    Agrees (GrownFrom s.tree l) (parameters s.resolve doc v) (parameters s.resolve doc' v') Eq := by
  have hitems := (forall₂_items h).imp fun _ _ => agrees_read Parameter.ofValue?
  refine (Agrees.mapM hitems).bind fun found found' hfound => ?_
  rw [List.forall₂_eq_eq_eq] at hfound
  exact .pure (congrArg _ hfound)

theorem agrees_body {v v' : Option Value}
    (h : Option.Rel (fun w w' => Alike s l (fun d => Resolved s l d Eq) doc w doc' w') v v') :
    Agrees (GrownFrom s.tree l) (body s.resolve doc v) (body s.resolve doc' v') Eq := by
  cases h with
  | none => exact .pure rfl
  | some h => exact agrees_read BodySpec.ofValue? h

/-- What goes on from the mapping behind references is the same, if it is so for mappings that are alike. -/
theorem agrees_members {β : Type} {k : DocPath → Members Value → StateM Library (Option β)}
    (hsame : ∀ d key w, Under d key w w) (hkey : ∀ d w w', Under d "$ref" w w' → w = w')
    (hk : ∀ d ms d' ms', MembersAlike s l Under d ms d' ms' → Agrees (GrownFrom s.tree l) (k d ms) (k d' ms') Eq)
    (h : Alike s l (fun d => Resolved s l d (ResolvedMembers (Under d))) doc v doc' v') :
    let c (doc : DocPath) (v : Value) : StateM Library (Option β) := do
      match ← s.resolve doc v with
      | .error _ => return none
      | .ok (doc, v) =>
        match v.members? with
        | none => return none
        | some ms => k doc ms
    Agrees (GrownFrom s.tree l) (c doc v) (c doc' v') Eq := by
  refine (agrees_resolve (fun _ w => .same w) (fun d _ _ => reference?_of_resolvedMembers (hkey d))
    h).bind fun found found' hfound => ?_
  cases hfound with
  | error e => exact .pure rfl
  | @value d d' w w' hw =>
    have hmembers := rel_members? hsame hw
    simp only
    generalize w.members? = found at hmembers
    generalize w'.members? = found' at hmembers
    cases hmembers with
    | none => exact .pure rfl
    | some hms => exact hk d _ d' _ hms

theorem agrees_operation (h : MembersAlike s l (resolvedInEntry s l) doc ms doc' ms') (method : Method) :
    Agrees (GrownFrom s.tree l) (operation s.resolve doc ms method) (operation s.resolve doc' ms' method)
      Eq := by
  have hblock := h.followed method.key (by cases method <;> decide)
  simp only [resolvedInEntry_method] at hblock
  unfold operation
  generalize ms.get? method.key = found at hblock
  generalize ms'.get? method.key = found' at hblock
  cases hblock with
  | none => exact .pure rfl
  | some hblock =>
    refine agrees_members (fun _ => resolvedInBlock_same) (fun _ _ _ h => h) (fun d ms d' ms' hms => ?_) hblock
    have hown := agrees_parameters (hms.followed "parameters" (by decide))
    have hbody := agrees_body (hms.followed "requestBody" (by decide))
    refine hown.bind fun own _ heq => hbody.bind fun body _ heq' => .pure ?_
    subst heq heq'
    rw [textField?, textField?, textField?, textField?, hms.same "summary" fun _ _ h => h,
      hms.same "description" fun _ _ h => h]

theorem agrees_pathDocument (h : Alike s l (ResolvedEntry s l) doc v doc' v') (path : String) :
    Agrees (GrownFrom s.tree l) (pathDocument s.resolve doc path v) (pathDocument s.resolve doc' path v')
      Eq := by
  refine agrees_members (fun _ => resolvedInEntry_same) (fun _ _ _ h => h) (fun d ms d' ms' hms => ?_) h
  have hshared := agrees_parameters (hms.followed "parameters" (by decide))
  have hmethods := Agrees.mapM (List.forall₂_same.mpr fun method (_ : method ∈ Method.all) =>
    agrees_operation hms method)
  refine hshared.bind fun shared _ heq => hmethods.bind fun operations operations' hoperations => .pure ?_
  rw [List.forall₂_eq_eq_eq] at hoperations
  rw [heq, hoperations]

end

/-- A path document can be loaded with what references lead to in place of the references: in place of the
entry, or of blocks of methods, parameters and bodies in it, in any number and for any library. Only values
without references are put there, and no reference that is left is to a document that strays. -/
theorem pathDocument_resolved {s : Source} {l : Library} {doc : DocPath} {v v' : Value}
    (h : ResolvedEntry s l doc v v') (hsteady : Steady s.tree l doc v') (path : String) :
    ((pathDocument s.resolve doc path v).run l).1 = ((pathDocument s.resolve doc path v').run l).1 :=
  (agrees_pathDocument (.here h hsteady) path).gives l l (.refl s.tree l) (.refl s.tree l)

/-- A shared parameter, a body, and a block at the end of a chain through two files are replaced. One reference
is left. The second file has been loaded before. -/
theorem pathDocument_resolved_user :
    let t : FileTree := ⟨[(["user.yaml"], .file (Text.Utf8.encode "$ref: parts.yaml#/get".toList))], []⟩
    let refer (r : String) : Value := .object [("$ref", .string r)]
    let doc : DocPath := ⟨"/index.yaml"⟩
    let id : Value := .object [("in", .string "path"), ("name", .string "id")]
    let get : Value := .object [("summary", .string "Get user")]
    let body : Value := .object [("required", .bool true)]
    let l := Library.empty.insert ⟨"/parts.yaml"⟩ (.object [("id", id), ("get", get), ("body", body)])
    let entry (id get body : Value) : Value := .object [("parameters", .array [id]), ("get", get),
      ("put", .object [("requestBody", body)]), ("delete", refer "user.yaml")]
    let v := entry (refer "parts.yaml#/id") (refer "user.yaml") (refer "parts.yaml#/body")
    let s : Source := ⟨t, Library.stepLimit t l doc v⟩
    ResolvedEntry s l doc v (entry id get body) ∧ Steady t l doc (entry id get body) ∧
      ((pathDocument s.resolve doc "/users/{id}" v).run l).1 =
        ((pathDocument s.resolve doc "/users/{id}" (entry id get body)).run l).1 ∧
      ((pathDocument s.resolve doc "/users/{id}" (entry id get body)).run l).1 =
        some ⟨"/users/{id}", [.declare "id" .path false none .string none],
          [⟨.get, some "Get user", none, [], none⟩, ⟨.put, none, none, [], some ⟨true, none⟩⟩,
            ⟨.delete, some "Get user", none, [], none⟩]⟩ := by
  intro t refer doc id get body l entry v s
  have hid : ((s.resolve doc (refer "parts.yaml#/id")).run l).1 = .ok (⟨"/parts.yaml"⟩, id) := by
    decide +kernel
  have hget : ((s.resolve doc (refer "user.yaml")).run l).1 = .ok (⟨"/parts.yaml"⟩, get) := by
    decide +kernel
  have hbody : ((s.resolve doc (refer "parts.yaml#/body")).run l).1 = .ok (⟨"/parts.yaml"⟩, body) := by
    decide +kernel
  have hparameters : ResolvedItems s l doc (.array [refer "parts.yaml#/id"]) (.array [id]) :=
    .items (.cons (.found hid rfl) .nil)
  have hblock : ResolvedMembers (resolvedInBlock s l doc)
      (.object [("requestBody", refer "parts.yaml#/body")]) (.object [("requestBody", body)]) :=
    .members (.cons ⟨rfl, Resolved.found hbody rfl⟩ .nil)
  have hentry : ResolvedEntry s l doc v (entry id get body) :=
    .kept (.members (.cons ⟨rfl, hparameters⟩ (.cons ⟨rfl, Resolved.found hget rfl⟩
      (.cons ⟨rfl, Resolved.kept hblock⟩ (.cons ⟨rfl, resolvedInEntry_same _ _⟩ .nil)))))
  have hclosed : IsClosed t l
      [(doc, entry id get body), (doc, .array [id]), (doc, id), (doc, get),
        (doc, .object [("requestBody", body)]), (doc, body), (doc, refer "user.yaml"),
        (⟨"/user.yaml"⟩, refer "parts.yaml#/get"), (⟨"/parts.yaml"⟩, get)] := by
    decide +kernel
  have hsteady := hclosed.steady List.mem_cons_self
  refine ⟨hentry, hsteady, pathDocument_resolved hentry hsteady "/users/{id}", ?_⟩
  decide +kernel

/-- A path with a slash behind a file leads nowhere. Behind a reference that reads the file its names have been
loaded, so the block of the second method is found; with the value of that reference in its place it is not. -/
theorem pathDocument_ne_resolved :
    let user := "get:\n  summary: Get user\npost:\n  summary: Add user\n"
    let t : FileTree := ⟨[(["user.yaml"], .file (Text.Utf8.encode user.toList))], []⟩
    let refer (r : String) : Value := .object [("$ref", .string r)]
    let doc : DocPath := ⟨"/index.yaml"⟩
    let get : Value := .object [("summary", .string "Get user")]
    let entry (get : Value) : Value := .object [("get", get), ("post", refer "user.yaml/#/post")]
    let v := entry (refer "user.yaml#/get")
    let s : Source := ⟨t, Library.stepLimit t .empty doc v⟩
    ResolvedEntry s .empty doc v (entry get) ∧
      ((pathDocument s.resolve doc "/users" v).run .empty).1 = some ⟨"/users", [],
        [⟨.get, some "Get user", none, [], none⟩, ⟨.post, some "Add user", none, [], none⟩]⟩ ∧
      ((pathDocument s.resolve doc "/users" (entry get)).run .empty).1 = some ⟨"/users", [],
        [⟨.get, some "Get user", none, [], none⟩]⟩ := by
  intro user t refer doc get entry v s
  have hget : ((s.resolve doc (refer "user.yaml#/get")).run .empty).1 = .ok (⟨"/user.yaml"⟩, get) := by
    decide +kernel
  have hentry : ResolvedEntry s .empty doc v (entry get) :=
    .kept (.members (.cons ⟨rfl, Resolved.found hget rfl⟩ (.cons ⟨rfl, resolvedInEntry_same _ _⟩ .nil)))
  refine ⟨hentry, ?_, ?_⟩
  · decide +kernel
  · decide +kernel

end ApiToolbox.Index
