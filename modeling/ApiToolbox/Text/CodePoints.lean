/-!
Sets and maps of code points, written as texts of hexadecimal numbers.
-/

namespace ApiToolbox.Text.CodePoints

def hexDigit (c : Char) : Nat :=
  if c.isDigit then c.toNat - 48 else c.toNat - 87

/-- A number in lower-case hexadecimal digits. -/
def hex (cs : List Char) : Nat := cs.foldl (fun n c => n * 16 + hexDigit c) 0

/-- The pieces of a text between the characters that `sep` holds for. -/
def pieces (sep : Char → Bool) : List Char → List (List Char)
  | [] => [[]]
  | c :: r =>
    match pieces sep r with
    | [] => []
    | piece :: rest => if sep c then [] :: piece :: rest else (c :: piece) :: rest

/-- Entries between spaces, each a list of numbers between other marks. -/
def entries (rows : List String) : Array (List Nat) :=
  ((rows.flatMap fun s => pieces (· = ' ') s.toList).map fun e =>
    (pieces (fun c => !c.isAlphanum) e).map hex).toArray

/-- The last entry that begins with a number up to `n`, where entries ascend by their first number. -/
def floor? (table : Array (List Nat)) (n : Nat) : Option (List Nat) :=
  go table.size 0 table.size
where
  go : Nat → Nat → Nat → Option (List Nat)
    | 0, low, _ => if low = 0 then none else table[low - 1]?
    | fuel + 1, low, high =>
      if low < high then
        let mid := (low + high) / 2
        if ((table[mid]?.getD []).headD 0) ≤ n then go fuel (mid + 1) high else go fuel low mid
      else if low = 0 then none else table[low - 1]?

/-- Whether `n` is in one of the ranges, each written as its ends or as one number. -/
def inRanges (table : Array (List Nat)) (n : Nat) : Bool :=
  match floor? table n with
  | some [low] => n = low
  | some (_ :: high :: _) => n ≤ high
  | _ => false

/-- The entry whose first number is `n`, without it. -/
def entry? (table : Array (List Nat)) (n : Nat) : Option (List Nat) :=
  match floor? table n with
  | some (m :: rest) => if m = n then some rest else none
  | _ => none

end ApiToolbox.Text.CodePoints
