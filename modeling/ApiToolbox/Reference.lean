import ApiToolbox.Document
import ApiToolbox.FileTree
import ApiToolbox.Json.Pointer
import ApiToolbox.Url

/-!
References between documents. A mapping with a text under `$ref` stands for the value that the text
points to: a document, given by a path relative to the document that the reference is in, and a
pointer into it. `Library.resolve` follows such references until it meets a value that is none.
-/

namespace ApiToolbox

open Json (Value)

/-- The path of a document. Two paths name the same document when their names agree; empty names and
`.` do not count, except in front of a relative path. -/
structure DocPath where
  text : String
  deriving DecidableEq, Repr

namespace DocPath

/-- The names that count. -/
def key (d : DocPath) : Bool × List String :=
  let names := (FileTree.names d.text).filter fun n => n ≠ "" && n ≠ "."
  let dot := d.text = "." || "./".toList.isPrefixOf d.text.toList
  (FileTree.isAbsolute d.text, if dot then "." :: names else names)

/-- The path of a document in a tree: canonical if it leads somewhere. -/
def locate (t : FileTree) (path : String) : DocPath := ⟨t.canonical path⟩

/-- Names at the end of a reversed path that do not count: slashes, and `.` behind a slash. -/
def dropIdle : List Char → List Char
  | '/' :: r => dropIdle r
  | '.' :: '/' :: r => dropIdle r
  | cs => cs

/-- The directory of a document: its path without the last name. -/
def parent (d : DocPath) : String :=
  let body := dropIdle d.text.toList.reverse
  let above := dropIdle (body.dropWhile (· ≠ '/'))
  if body = [] then "."
  else if FileTree.isAbsolute d.text && above = [] then "/"
  else String.ofList above.reverse

def join (directory path : String) : String :=
  if FileTree.isAbsolute path || directory = "" then path
  else if directory.toList.getLast? = some '/' then directory ++ path
  else directory ++ "/" ++ path

end DocPath

inductive ReferenceError where
  | remote (target : String)
  | badUrl (target : String) (cause : Url.Error)
  | notPath (target : String)
  | badFragment (reference : String)
  | cyclic (reference : String)
  | unreadable (path : String) (cause : FileError)
  | malformed (path : String)
  | dangling (reference path pointer : String)
  deriving DecidableEq, Repr

def ReferenceError.message : ReferenceError → String
  | remote target => "Remote $ref targets are not supported: " ++ target
  | badUrl target cause => "Bad $ref file URL '" ++ target ++ "': " ++ cause.message
  | notPath target => "Bad $ref file URL (not a path): " ++ target
  | badFragment reference =>
    "Unsupported $ref fragment (expected JSON pointer starting with '/'): " ++ reference
  | cyclic reference => "Cyclic $ref detected while resolving: " ++ reference
  | unreadable path cause => "Failed to read referenced file " ++ path ++ ": " ++ cause.message
  | malformed path => "Failed to parse referenced document " ++ path ++ ": YAML error"
  | dangling reference path pointer =>
    "Unresolved $ref '" ++ reference ++ "' (doc " ++ path ++ ", missing pointer '" ++ pointer ++ "')"

def Json.Value.reference? (v : Value) : Option String :=
  (v.member? "$ref").bind Value.string?

/-- What a reference points to: a document and perhaps a pointer into it. -/
structure Target where
  doc : DocPath
  pointer : Option String
  deriving DecidableEq, Repr

namespace Target

/-- The target as one text; a chain of references is cyclic when it comes to the same text again. -/
def label (t : Target) : String :=
  match t.pointer with
  | some p => t.doc.text ++ "#" ++ p
  | none => t.doc.text

/-- The path of a file address, which must not name a host. -/
def filePath? (u : Url) : Option (List UInt8) :=
  match u.authority, u.path with
  | none, .segments parts =>
    let bytes := parts.flatMap fun s => 47 :: Url.percentDecode s.toList
    match bytes.reverse with
    | mark :: letter :: _ =>
      if 2 < bytes.length && (Char.ofNat letter.toNat).isAlpha && (mark = 58 || mark = 124) then
        some (bytes ++ [47])
      else some bytes
    | _ => some bytes
  | _, _ => none

/-- The document that the first part of a reference names, seen from a document. -/
def document (t : FileTree) (base : DocPath) (part : String) : Except ReferenceError DocPath :=
  if part = "" then .ok base
  else if "http://".toList.isPrefixOf part.toList || "https://".toList.isPrefixOf part.toList then
    .error (.remote part)
  else if "file://".toList.isPrefixOf part.toList then
    match Url.parse part with
    | .error e => .error (.badUrl part e)
    | .ok u =>
      match filePath? u with
      | some bytes => .ok (.locate t (String.ofList (Text.Utf8.decodeLossy bytes)))
      | none => .error (.notPath part)
  else .ok (.locate t (DocPath.join base.parent part))

/-- The target of a reference, seen from the document that it is in. -/
def ofReference (t : FileTree) (base : DocPath) (reference : String) :
    Except ReferenceError Target := do
  let (part, fragment) := match Text.cutAt? '#' reference.toList with
    | some (part, f) => (part, f)
    | none => (reference.toList, [])
  let doc ← document t base (String.ofList part)
  if fragment = [] then .ok ⟨doc, none⟩
  else if fragment.head? = some '/' then .ok ⟨doc, some (String.ofList fragment)⟩
  else .error (.badFragment reference)

end Target

structure Library where
  documents : List ((Bool × List String) × Value)
  deriving Repr

namespace Library

def empty : Library := ⟨[]⟩

def get? (l : Library) (doc : DocPath) : Option Value :=
  (l.documents.find? (·.1 = doc.key)).map (·.2)

/-- Keep a document, in place of an older one of the same name. -/
def insert (l : Library) (doc : DocPath) (value : Value) : Library :=
  ⟨(doc.key, value) :: l.documents.filter (·.1 ≠ doc.key)⟩

/-- A document: the one that has been loaded, else the one in its file. -/
def load (t : FileTree) (l : Library) (doc : DocPath) : Except ReferenceError (Value × Library) :=
  match l.get? doc with
  | some v => .ok (v, l)
  | none =>
    match t.read doc.text with
    | .error e => .error (.unreadable doc.text e)
    | .ok text =>
      match Document.parse? text with
      | some v => .ok (v, l.insert doc v)
      | none => .error (.malformed doc.text)

def fetch (t : FileTree) (l : Library) (reference : String) (target : Target) :
    Except ReferenceError Value × Library :=
  match l.load t target.doc with
  | .error e => (.error e, l)
  | .ok (v, l) =>
    match target.pointer with
    | none => (.ok v, l)
    | some p =>
      match Json.Pointer.find? v p with
      | some w => (.ok w, l)
      | none => (.error (.dangling reference target.doc.text p), l)

/-- Follow references for at most `fuel` steps. `seen` holds the labels of the targets met so far. A
chain that is still not at its end then is given up as cyclic. -/
def follow (t : FileTree) : Nat → List String → Library → DocPath → Value →
    Except ReferenceError (DocPath × Value) × Library
  | fuel, seen, l, doc, v =>
    match v.reference? with
    | none => (.ok (doc, v), l)
    | some reference =>
      match Target.ofReference t doc reference with
      | .error e => (.error e, l)
      | .ok target =>
        if target.label ∈ seen then (.error (.cyclic reference), l)
        else
          match fuel with
          | 0 => (.error (.cyclic reference), l)
          | fuel + 1 =>
            match l.fetch t reference target with
            | (.error e, l) => (.error e, l)
            | (.ok w, l) => follow t fuel (target.label :: seen) l target.doc w

mutual

def references : Value → List String
  | .array vs => referencesInItems vs
  | .object ms => (Value.object ms).reference?.toList ++ referencesInMembers ms
  | _ => []

def referencesInItems : List Value → List String
  | [] => []
  | v :: vs => references v ++ referencesInItems vs

def referencesInMembers : List (String × Value) → List String
  | [] => []
  | (_, v) :: ms => references v ++ referencesInMembers ms

end

def treeDocuments (t : FileTree) : List Value :=
  t.entries.filterMap fun (_, e) =>
    match e with
    | .file content =>
      (Text.Utf8.decode? content).bind fun cs => Document.parse? (String.ofList cs)
    | _ => none

/-- Bounds for what chains of references come across: the texts of all references, the length of a text
that is a reference or names a document in full, and how many names of a document count. -/
structure Scope where
  spelled : List String
  length : Nat
  depth : Nat

/-- What chains come across that begin with a library at a value in a document. -/
def scope (t : FileTree) (l : Library) (doc : DocPath) (start : Value) : Scope :=
  let documents := treeDocuments t ++ l.documents.map (·.2)
  let spelled := (start :: documents).flatMap references
  let named := spelled.filterMap fun r => (Target.ofReference t ⟨""⟩ r).toOption.map (·.doc)
  let places := t.entries.map fun (place, _) => (⟨FileTree.pathOf place⟩ : DocPath)
  let docs := doc :: ⟨"/"⟩ :: (named ++ places)
  { spelled
    length := (docs.map (·.text.length) ++ spelled.map (·.length)).foldr max 0
    depth := (docs.map (·.key.2.length) ++ l.documents.map (·.1.2.length)).foldr max 0 }

/-- More than there are texts of some length, of characters of 21 bits. Where no more than `depth` names
count, the label of a target is not longer than this: the names that do not count stand in references,
each in front of one that does. -/
def Scope.limit (s : Scope) : Nat :=
  Nat.pow 2 (21 * ((s.depth + 2) * (s.length + 2))) + 1

/-- More steps than a chain of references can take without meeting a target twice. -/
def stepLimit (t : FileTree) (l : Library) (doc : DocPath) (start : Value) : Nat :=
  (scope t l doc start).limit

/-- Follow references from a value in a document to a value that is no reference, for at most `limit`
steps. The answer names the document that this value is in. -/
def resolveWithin (t : FileTree) (limit : Nat) (l : Library) (doc : DocPath) (v : Value) :
    Except ReferenceError (DocPath × Value) × Library :=
  follow t limit [] l doc v

/-- Follow references from a value in a document to a value that is no reference. -/
def resolve (t : FileTree) (l : Library) (doc : DocPath) (v : Value) :
    Except ReferenceError (DocPath × Value) × Library :=
  resolveWithin t (stepLimit t l doc v) l doc v

end Library
end ApiToolbox
