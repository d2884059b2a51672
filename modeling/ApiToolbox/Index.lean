import ApiToolbox.Digest.Sha256
import ApiToolbox.Operation
import ApiToolbox.Reference

/-!
Reading an index: a mapping from paths to path documents, each with the operations of one path. Every
piece may be a reference. What cannot be read or is not a mapping is left out; only the index file
itself must be readable.
-/

namespace ApiToolbox

open Json (Value)

structure OperationDecl where
  method : Method
  summary : Option String
  description : Option String
  parameters : List Parameter
  body : Option BodySpec
  deriving DecidableEq, Repr, Inhabited

/-- The operations of one path, with the parameters that they share. -/
structure PathDocument where
  path : String
  shared : List Parameter
  operations : List OperationDecl
  deriving DecidableEq, Repr, Inhabited

/-- The parameters of an operation: the shared ones, then its own. -/
def OperationDecl.allParameters (o : OperationDecl) (shared : List Parameter) : List Parameter :=
  shared ++ o.parameters

/-- The text of a field without surrounding white space, if it is a text and not blank. -/
def textField? (ms : Members Value) (key : String) : Option String :=
  ((ms.get? key).bind Value.string?).bind Text.nonBlank?

/-- A flag that is false unless it is given. -/
def flagField (ms : Members Value) (key : String) : Bool :=
  ((ms.get? key).bind Value.bool?).getD false

/-- A parameter from its declaration; `none` without a name or for another place than path and
query. -/
def Parameter.ofValue? (v : Value) : Option Parameter := do
  let ms ← v.members?
  let name ← (ms.get? "name").bind Value.string?
  let location ← ((ms.get? "in").bind Value.string?).bind Location.ofName?
  let schema := (ms.get? "schema").bind Value.members?
  let type := ParameterType.ofName ((schema.bind (Members.get? "type")).bind Value.string?)
  let format := schema.bind (textField? · "format")
  some (.declare name location (flagField ms "required") (textField? ms "description") type format)

def BodySpec.ofValue? (v : Value) : Option BodySpec :=
  v.members?.map fun ms => ⟨flagField ms "required", textField? ms "description"⟩

/-- What follows references from a value in a document to a value that is none, and tells the document
that this value is in. -/
abbrev Resolver (m : Type → Type) :=
  DocPath → Value → m (Except ReferenceError (DocPath × Value))

namespace Index

/-! ### What a path declares

A resolver is all that is known of other documents. -/

section Load

variable {m : Type → Type} [Monad m] (resolve : Resolver m)

/-- The parameters in a list of declarations and references to them. -/
def parameters (doc : DocPath) (v : Option Value) : m (List Parameter) := do
  let found ← ((v.bind Value.items?).getD []).mapM fun item => do
    match ← resolve doc item with
    | .ok (_, v) => return Parameter.ofValue? v
    | .error _ => return none
  return found.filterMap id

def body (doc : DocPath) (v : Option Value) : m (Option BodySpec) := do
  match v with
  | none => return none
  | some v =>
    match ← resolve doc v with
    | .ok (_, v) => return BodySpec.ofValue? v
    | .error _ => return none

def operation (doc : DocPath) (ms : Members Value) (method : Method) : m (Option OperationDecl) := do
  match ms.get? method.key with
  | none => return none
  | some v =>
    match ← resolve doc v with
    | .error _ => return none
    | .ok (doc, v) =>
      match v.members? with
      | none => return none
      | some ms =>
        let parameters ← parameters resolve doc (ms.get? "parameters")
        let body ← body resolve doc (ms.get? "requestBody")
        return some ⟨method, textField? ms "summary", textField? ms "description", parameters, body⟩

def pathDocument (doc : DocPath) (path : String) (entry : Value) : m (Option PathDocument) := do
  match ← resolve doc entry with
  | .error _ => return none
  | .ok (doc, v) =>
    match v.members? with
    | none => return none
    | some ms =>
      let shared ← parameters resolve doc (ms.get? "parameters")
      let operations ← Method.all.mapM (operation resolve doc ms)
      return some ⟨path, shared, operations.filterMap id⟩

/-- The path documents of an index, in the order of its keys. -/
def documents (doc : DocPath) (entries : Members Value) : m (List PathDocument) := do
  let found ← entries.mapM fun (path, entry) => pathDocument resolve doc path entry
  return found.filterMap id

end Load

/-- The entries of an index: those under `paths` if that is a mapping, else its own. -/
def entries? (index : Value) : Option (Members Value) :=
  index.members?.map fun ms =>
    match ms.get? "paths" with
    | some (.object paths) => paths
    | _ => ms

/-- Where an index is read from: the files, and how far chains of references are followed. -/
structure Source where
  tree : FileTree
  limit : Nat

/-- Follow references from a value; the library keeps what has been read. -/
def Source.resolve (s : Source) : Resolver (StateM Library) :=
  fun doc v l => Library.resolveWithin s.tree s.limit l doc v

/-- The path documents of the index at a path, whose text has been read. A text that is no document, or
no mapping, has none. The library begins with the index. -/
def ofTextWith {m : Type → Type} [Monad m] (resolver : Source → Resolver (StateT Library m))
    (tree : FileTree) (path text : String) : m (List PathDocument) :=
  match Document.parse? text with
  | none => return []
  | some index =>
    match entries? index with
    | none => return []
    | some entries => do
      let doc := DocPath.locate tree path
      let library := Library.empty.insert doc index
      let s : Source := ⟨tree, Library.stepLimit tree library doc index⟩
      let (found, _) ← (documents (resolver s) doc entries).run library
      return found

/-- The path documents of the index at a path, where chains of references are followed as far as they can
go without a cycle. -/
def ofText (tree : FileTree) (path text : String) : List PathDocument :=
  Id.run (ofTextWith Source.resolve tree path text)

/-- The digest by which an index can be pinned. -/
def digest (text : String) : String := "sha256:" ++ Digest.Sha256.hex text

/-- Whether a text has the digest that is expected, up to case and surrounding white space. -/
def hasDigest (text expected : String) : Bool :=
  Text.asciiLower (digest text) = Text.asciiLower (Text.trimmed expected)

end Index
end ApiToolbox
