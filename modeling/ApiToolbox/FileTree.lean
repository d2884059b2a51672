import ApiToolbox.Text.Blank
import ApiToolbox.Text.Utf8

/-!
Files as a value: a tree of directories, files and symbolic links, in which paths are followed one
name at a time. Reading a file and finding the canonical form of a path are functions of the tree.
-/

namespace ApiToolbox

inductive FileError where
  | notFound
  | notDirectory
  | isDirectory
  | tooManyLinks
  | nameTooLong
  | nulInName
  | notUtf8
  deriving DecidableEq, Repr

def FileError.message : FileError → String
  | notFound => "No such file or directory (os error 2)"
  | notDirectory => "Not a directory (os error 20)"
  | isDirectory => "Is a directory (os error 21)"
  | tooManyLinks => "Too many levels of symbolic links (os error 40)"
  | nameTooLong => "File name too long (os error 36)"
  | nulInName => "file name contained an unexpected NUL byte"
  | notUtf8 => "stream did not contain valid UTF-8"

inductive FileEntry where
  | file (content : List UInt8)
  | directory
  | link (target : String)
  deriving DecidableEq, Repr

/-- The entries by their places, which are lists of names from the root, and the directory from which
relative paths begin. The root itself is a directory without entry. -/
structure FileTree where
  entries : List (List String × FileEntry)
  current : List String
  deriving Repr

namespace FileTree

def empty : FileTree := ⟨[], []⟩

def entry? (t : FileTree) (place : List String) : Option FileEntry :=
  if place = [] then some .directory else (t.entries.find? (·.1 = place)).map (·.2)

/-- The names of a path, with empty ones where slashes meet. -/
def names (path : String) : List String :=
  (Text.splitOn '/' path.toList).map String.ofList

def isAbsolute (path : String) : Bool := path.toList.head? = some '/'

def pathOf (place : List String) : String :=
  if place = [] then "/" else String.join (place.map ("/" ++ ·))

/-- Links may be followed this often on one way. -/
def linkLimit : Nat := 40

/-- Follow names from a directory of the tree; `jump` goes on where a link leads. -/
def walk (t : FileTree) (jump : List String → List String → Except FileError (List String × FileEntry))
    (place : List String) : List String → Except FileError (List String × FileEntry)
  | [] =>
    match t.entry? place with
    | some e => .ok (place, e)
    | none => .error .notFound
  | name :: rest =>
    if t.entry? place ≠ some .directory then .error .notDirectory
    else if name = "" || name = "." then t.walk jump place rest
    else if name = ".." then t.walk jump place.dropLast rest
    else if 255 < name.utf8ByteSize then .error .nameTooLong
    else
      match t.entry? (place ++ [name]) with
      | none => .error .notFound
      | some (.link target) => jump (if isAbsolute target then [] else place) (names target ++ rest)
      | some _ => t.walk jump (place ++ [name]) rest

/-- Follow names from a directory of the tree, with at most so many links on the way. -/
def follow (t : FileTree) : Nat → List String → List String → Except FileError (List String × FileEntry)
  | 0 => t.walk fun _ _ => .error .tooManyLinks
  | links + 1 => t.walk (t.follow links)

def locate (t : FileTree) (path : String) : Except FileError (List String × FileEntry) :=
  if path.toList.contains '\x00' then .error .nulInName
  else if path = "" then .error .notFound
  else t.follow linkLimit (if isAbsolute path then [] else t.current) (names path)

/-- The canonical form of a path that leads somewhere; any other path as it is. -/
def canonical (t : FileTree) (path : String) : String :=
  match t.locate path with
  | .ok (place, _) => pathOf place
  | .error _ => path

def readBytes (t : FileTree) (path : String) : Except FileError (List UInt8) :=
  match t.locate path with
  | .ok (_, .file content) => .ok content
  | .ok _ => .error .isDirectory
  | .error e => .error e

def read (t : FileTree) (path : String) : Except FileError String := do
  match Text.Utf8.decode? (← t.readBytes path) with
  | some cs => .ok (String.ofList cs)
  | none => .error .notUtf8

def set (t : FileTree) (place : List String) (e : FileEntry) : FileTree :=
  { t with entries := (place, e) :: t.entries.filter (·.1 ≠ place) }

/-- Make a directory, and those above it, where there is nothing yet. -/
def makeDirectory (t : FileTree) (place : List String) : FileTree :=
  (List.range place.length).foldl
    (fun t n =>
      let above := place.take (n + 1)
      if (t.entry? above).isSome then t else t.set above .directory) t

/-- Put an entry at a place, with the directories above it. -/
def put (t : FileTree) (place : List String) (e : FileEntry) : FileTree :=
  (t.makeDirectory place.dropLast).set place e

/-- Write a file at a path whose last name may be new; a link there is followed. -/
def write (t : FileTree) (path : String) (content : List UInt8) : FileTree :=
  match t.locate path with
  | .ok (place, .file _) => t.set place (.file content)
  | _ => t.put ((if isAbsolute path then [] else t.current) ++
      (names path).filter (fun n => n ≠ "" && n ≠ ".")) (.file content)

/-- Remove the entry at a path, not following a link there. -/
def remove (t : FileTree) (path : String) : FileTree :=
  let given := (names path).filter fun n => n ≠ "" && n ≠ "."
  let place := (if isAbsolute path then [] else t.current) ++ given
  { t with entries := t.entries.filter (·.1 ≠ place) }

end FileTree
end ApiToolbox
