import ApiToolbox.Operation

/-!
Tool names. The words of a path are joined by single underscores; where that is taken, the method
comes in front, and where that is taken too, a number behind.
-/

namespace ApiToolbox.ToolName

def collapse : List Char → List Char
  | [] => []
  | c :: r =>
    match collapse r with
    | '_' :: rest => if c = '_' then '_' :: rest else c :: '_' :: rest
    | rest => c :: rest

def trimUnderscores (cs : List Char) : List Char :=
  ((cs.dropWhile (· = '_')).reverse.dropWhile (· = '_')).reverse

/-- The name that a path suggests: braces vanish, all else but letters and digits separates words.
It is empty if there are no words. -/
def base (path : String) : String :=
  let kept := path.toList.filter fun c => !(c = '{' || c = '}')
  let words := kept.map fun c => if c.isAlphanum then c else '_'
  String.ofList (trimUnderscores (collapse words))

/-- The suggested name, or one for a path without words. -/
def root (method : Method) (path : String) : String :=
  if base path = "" then method.key ++ "_root" else base path

def numbered (stem : String) (n : Nat) : String := stem ++ "_" ++ toString n

/-- The first of `stem_n`, `stem_(n+1)`, … that is not in use, among the next `tries` and the one after
them. -/
def firstFree (used : List String) (stem : String) : Nat → Nat → String
  | 0, n => numbered stem n
  | tries + 1, n =>
    if numbered stem n ∈ used then firstFree used stem tries (n + 1) else numbered stem n

/-- The name of an operation beside the names in use. -/
def assign (used : List String) (method : Method) (path : String) : String :=
  let first := root method path
  let second := method.key ++ "_" ++ first
  if first ∉ used then first
  else if second ∉ used then second
  else firstFree used second used.length 2

/-- The name under which the list of operations itself is a tool. -/
def reserved : String := "list_operations"

end ApiToolbox.ToolName
