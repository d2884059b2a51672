import ApiToolbox.Json.Value
import ApiToolbox.Text.Blank

/-!
JSON pointers: keys and list positions behind slashes, with `~1` for a slash and `~0` for a tilde.
-/

namespace ApiToolbox.Json.Pointer

/-- The key that a piece of a pointer stands for. -/
def unescape : List Char → List Char
  | '~' :: '1' :: r => '/' :: unescape r
  | '~' :: '0' :: r => '~' :: unescape r
  | c :: r => c :: unescape r
  | [] => []

/-- A list position: digits without leading zeros, within 64 bits. -/
def index? (cs : List Char) : Option Nat :=
  if cs = [] || !cs.all Char.isDigit || (cs.length ≠ 1 && cs.head? = some '0') then none
  else
    let n := cs.foldl (fun n c => n * 10 + (c.toNat - 48)) 0
    if n < Nat.pow 2 64 then some n else none

def child? (v : Value) (piece : List Char) : Option Value :=
  match v with
  | .object ms => Members.get? (String.ofList piece) ms
  | .array vs => (index? piece).bind fun i => vs[i]?
  | _ => none

def walk? : Value → List (List Char) → Option Value
  | v, [] => some v
  | v, piece :: rest => (child? v (unescape piece)).bind fun w => walk? w rest

/-- The value that a pointer, which begins with a slash or is empty, denotes in a value. -/
def find? (v : Value) (pointer : String) : Option Value :=
  match pointer.toList with
  | [] => some v
  | '/' :: r => walk? v (Text.splitOn '/' r)
  | _ => none

end ApiToolbox.Json.Pointer
