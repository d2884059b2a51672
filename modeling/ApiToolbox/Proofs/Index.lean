import ApiToolbox.Index
import ApiToolbox.Proofs.Document
import ApiToolbox.Proofs.Json.Members
import ApiToolbox.Proofs.Steps

/-! The load of an index by its pieces: mappings behind references, entries, and blocks of methods. A
reference resolves with the documents that have been read by then, so what a piece gives is told with the
library that the load has there. -/

namespace ApiToolbox.Index

open Json (Value)

section Pieces

variable (resolve : Resolver (StateM Library))

/-- The mapping that a value resolves to, with the document that it is in. -/
def mapping (doc : DocPath) (v : Value) : StateM Library (Option (DocPath × Members Value)) := do
  match ← resolve doc v with
  | .ok (doc, v) => return v.members?.map (doc, ·)
  | .error _ => return none

/-- The parameter that an item of a list resolves to. -/
def declared (doc : DocPath) (item : Value) : StateM Library (Option Parameter) := do
  match ← resolve doc item with
  | .ok (_, v) => return Parameter.ofValue? v
  | .error _ => return none

/-- The mapping under a path, the document that it is in, and the parameters that its operations
share. -/
structure Entry where
  doc : DocPath
  members : Members Value
  shared : List Parameter

/-- Load the entry of a path, without its operations. -/
def entry (doc : DocPath) (v : Value) : StateM Library (Option Entry) := do
  match ← mapping resolve doc v with
  | none => return none
  | some (doc, ms) => return some ⟨doc, ms, ← parameters resolve doc (ms.get? "parameters")⟩

/-- The mapping under a method, its own parameters, and the mapping that its body resolves to. -/
structure Block where
  members : Members Value
  own : List Parameter
  body : Option (Members Value)

/-- Load the block of a method. -/
def block (doc : DocPath) (v : Value) : StateM Library (Option Block) := do
  match ← mapping resolve doc v with
  | none => return none
  | some (doc, ms) =>
    let own ← parameters resolve doc (ms.get? "parameters")
    match ms.get? "requestBody" with
    | none => return some ⟨ms, own, none⟩
    | some v => return some ⟨ms, own, (← mapping resolve doc v).map (·.2)⟩

/-- The operation that a block declares. -/
def Block.decl (b : Block) (method : Method) : OperationDecl :=
  ⟨method, textField? b.members "summary", textField? b.members "description", b.own,
    b.body.map fun ms => ⟨flagField ms "required", textField? ms "description"⟩⟩

/-! ### The load in these terms -/

theorem parameters_eq (doc : DocPath) (v : Option Value) : parameters resolve doc v =
    collect (declared resolve doc) ((v.bind Value.items?).getD []) := rfl

theorem body_eq (doc : DocPath) (v : Value) :
    body resolve doc (some v) = do
      return (← mapping resolve doc v).map fun (_, ms) =>
        ⟨flagField ms "required", textField? ms "description"⟩ := by
  simp only [body, mapping, bind_assoc]
  refine bind_congr fun found => ?_
  cases found with
  | error e => simp
  | ok found =>
    obtain ⟨doc, v⟩ := found
    cases hv : v.members? <;> simp [BodySpec.ofValue?, hv]

theorem operation_eq (doc : DocPath) (ms : Members Value) (method : Method) :
    operation resolve doc ms method =
      match ms.get? method.key with
      | none => return none
      | some v => do return (← block resolve doc v).map (·.decl method) := by
  unfold operation
  cases ms.get? method.key with
  | none => rfl
  | some v =>
    simp only [block, mapping, bind_assoc]
    refine bind_congr fun found => ?_
    cases found with
    | error e => simp
    | ok found =>
      obtain ⟨doc, v⟩ := found
      cases hv : v.members? with
      | none => simp [hv]
      | some ms =>
        simp only [hv, Option.map_some, pure_bind, bind_assoc]
        refine bind_congr fun own => ?_
        cases ms.get? "requestBody" with
        | none => simp [body, Block.decl]
        | some v => simp [body_eq, mapping, Block.decl, Function.comp_def]

theorem pathDocument_eq (doc : DocPath) (path : String) (v : Value) :
    pathDocument resolve doc path v = do
      match ← entry resolve doc v with
      | none => return none
      | some e =>
        return some ⟨path, e.shared, ← collect (operation resolve e.doc e.members) Method.all⟩ := by
  simp only [pathDocument, entry, mapping, bind_assoc]
  refine bind_congr fun found => ?_
  cases found with
  | error e => simp
  | ok found =>
    obtain ⟨doc, v⟩ := found
    cases hv : v.members? with
    | none => simp [hv]
    | some ms => simp [hv, collect]

theorem documents_eq (doc : DocPath) (entries : Members Value) : documents resolve doc entries =
    collect (fun m => pathDocument resolve doc m.1 m.2) entries := rfl

theorem run_operation (doc : DocPath) (ms : Members Value) (method : Method) (l : Library) :
    (operation resolve doc ms method).run l =
      match ms.get? method.key with
      | none => (none, l)
      | some v =>
        let found := (block resolve doc v).run l
        (found.1.map (·.decl method), found.2) := by
  rw [operation_eq]
  cases ms.get? method.key with
  | none => rfl
  | some v => rfl

theorem run_pathDocument (doc : DocPath) (path : String) (v : Value) (l : Library) :
    (pathDocument resolve doc path v).run l =
      match (entry resolve doc v).run l with
      | (none, l) => (none, l)
      | (some e, l) =>
        let found := (collect (operation resolve e.doc e.members) Method.all).run l
        (some ⟨path, e.shared, found.1⟩, found.2) := by
  rw [pathDocument_eq, StateT.run_bind]
  rcases (entry resolve doc v).run l with ⟨_ | e, l⟩
  · rfl
  · rfl

/-! ### One path and one method -/

/-- The document under a path is what its entry gives when the entries in front have been loaded. -/
theorem filter_documents {doc : DocPath} {entries : Members Value} (h : entries.keys.Nodup)
    (path : String) (l : Library) :
    ((documents resolve doc entries).run l).1.filter (·.path = path) =
      match entries.get? path with
      | none => []
      | some v =>
        let before := ((documents resolve doc (entries.takeWhile (·.1 ≠ path))).run l).2
        ((pathDocument resolve doc path v).run before).1.toList := by
  have hkey (m : String × Value) (l : Library) :
      ∀ d ∈ ((pathDocument resolve doc m.1 m.2).run l).1, d.path = m.1 := by
    intro d hd
    rw [run_pathDocument] at hd
    split at hd
    · cases hd
    · rw [← Option.some.inj hd]
  rw [documents_eq, filter_collect _ Prod.fst PathDocument.path hkey h, Members.find?_key_eq]
  cases entries.get? path with
  | none => rfl
  | some v => rfl

/-- The operation under a method is what its block gives when the methods in front have been loaded. -/
theorem filter_operations (doc : DocPath) (ms : Members Value) (method : Method) (l : Library) :
    ((collect (operation resolve doc ms) Method.all).run l).1.filter (·.method = method) =
      let front := Method.all.takeWhile (· ≠ method)
      let before := ((collect (operation resolve doc ms) front).run l).2
      ((operation resolve doc ms method).run before).1.toList := by
  have hkey (m : Method) (l : Library) :
      ∀ o ∈ ((operation resolve doc ms m).run l).1, o.method = m := by
    intro o ho
    rw [run_operation] at ho
    split at ho
    · cases ho
    · obtain ⟨b, -, rfl⟩ := Option.map_eq_some_iff.mp ho
      rfl
  have hfind : Method.all.find? (· = method) = some method := by
    cases method <;> rfl
  rw [filter_collect _ id OperationDecl.method hkey (by decide)]
  simp only [id_eq, hfind]

end Pieces

/-! ### Loads -/

/-- A load at its beginning: the entries that it goes through, and the documents that it starts with. -/
structure Load where
  source : Source
  doc : DocPath
  entries : Members Value
  library : Library

namespace Load

/-- The load of an index at a path. -/
def start (t : FileTree) (path : String) (index : Value) (entries : Members Value) : Load :=
  let doc := DocPath.locate t path
  let library := Library.empty.insert doc index
  ⟨⟨t, Library.stepLimit t library doc index⟩, doc, entries, library⟩

/-- The path documents that a load gives. -/
def documents (load : Load) : List PathDocument :=
  ((Index.documents load.source.resolve load.doc load.entries).run load.library).1

end Load

/-- No key of an index that is read comes twice. -/
theorem nodup_keys_of_entries? {text : String} {index : Value} {entries : Members Value}
    (hindex : Document.parse? text = some index) (hentries : entries? index = some entries) :
    entries.keys.Nodup := by
  have hdistinct := Document.distinct_of_parse? hindex
  obtain ⟨ms, hms, rfl⟩ := Option.map_eq_some_iff.mp hentries
  cases hdistinct with
  | object hkeys h =>
    obtain rfl := Option.some.inj hms
    split
    · next paths hpaths =>
      cases h _ (Members.mem_of_get? hpaths) with
      | object hkeys _ => exact hkeys
    · exact hkeys
  | _ => cases hms

theorem ofText_eq (t : FileTree) (path : String) {text : String} {index : Value}
    {entries : Members Value} (hindex : Document.parse? text = some index)
    (hentries : entries? index = some entries) :
    ofText t path text = (Load.start t path index entries).documents := by
  simp only [ofText, ofTextWith, hindex, hentries]
  rfl

end ApiToolbox.Index
