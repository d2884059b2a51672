import ApiToolbox.Text.Composition.Table

/-!
Canonical composition of text: characters are taken apart into base characters and marks, marks are
put in the order of their combining classes, and what composes is composed again.
-/

namespace ApiToolbox.Text.Composition

def combiningClass (c : Char) : Nat :=
  if c.toNat < 0x300 then 0
  else
    match CodePoints.floor? classes c.toNat with
    | some [_, high, k] => if c.toNat ≤ high then k else 0
    | _ => 0

/-- A character of the general category Mark. -/
def isMark (c : Char) : Bool := 0x300 ≤ c.toNat && CodePoints.inRanges marks c.toNat

/-- Syllables of Hangul: the first one, and the first of each kind of part. -/
def syllableBase : Nat := 0xAC00
def leadBase : Nat := 0x1100
def vowelBase : Nat := 0x1161
def tailBase : Nat := 0x11A7

/-- The full decomposition of a character. -/
def decompose : Nat → Char → List Char
  | 0, c => [c]
  | fuel + 1, c =>
    let n := c.toNat
    if n < 0xC0 then [c]
    else if syllableBase ≤ n && n < syllableBase + 11172 then
      let i := n - syllableBase
      let parts := [Char.ofNat (leadBase + i / 588), Char.ofNat (vowelBase + i % 588 / 28)]
      if i % 28 = 0 then parts else parts ++ [Char.ofNat (tailBase + i % 28)]
    else
      match CodePoints.entry? decompositions n with
      | some parts => parts.flatMap fun p => decompose fuel (Char.ofNat p)
      | none => [c]

/-- Sort each run of marks by class. -/
def reorder (cs : List Char) : List Char :=
  let (done, run) := cs.foldl
    (fun (done, run) c =>
      if combiningClass c = 0 then (done ++ sort run ++ [c], []) else (done, run ++ [c]))
    (([] : List Char), ([] : List Char))
  done ++ sort run
where
  sort (run : List Char) : List Char :=
    run.mergeSort fun a b => combiningClass a ≤ combiningClass b

/-- The pairs of characters that compose, with what they compose to. -/
def composites : List (Nat × Nat × Nat) :=
  decompositions.toList.filterMap fun e =>
    match e with
    | [c, a, b] => if CodePoints.inRanges excluded c then none else some (a, b, c)
    | _ => none

def pair? (a b : Char) : Option Char :=
  let l := a.toNat
  let r := b.toNat
  if leadBase ≤ l && l < leadBase + 19 && vowelBase ≤ r && r < vowelBase + 21 then
    some (Char.ofNat (syllableBase + (l - leadBase) * 588 + (r - vowelBase) * 28))
  else if syllableBase ≤ l && l < syllableBase + 11172 && (l - syllableBase) % 28 = 0 &&
      tailBase < r && r < tailBase + 28 then
    some (Char.ofNat (l + (r - tailBase)))
  else (composites.find? fun (x, y, _) => x = l && y = r).map fun (_, _, c) => Char.ofNat c

/-- Compose from the left. `base` is the last base character, `marks` what followed it uncomposed. -/
def join : List Char → Option Char → List Char → List Char
  | [], base, marks => base.toList ++ marks
  | c :: rest, none, marks =>
    if combiningClass c = 0 then marks ++ join rest (some c) [] else join rest none (marks ++ [c])
  | c :: rest, some base, marks =>
    let k := combiningClass c
    let free := match marks.getLast? with
      | none => true
      | some m => combiningClass m < k
    match if free then pair? base c else none with
    | some composed => join rest (some composed) marks
    | none =>
      if k = 0 then base :: (marks ++ join rest (some c) []) else join rest (some base) (marks ++ [c])

def compose (cs : List Char) : List Char :=
  if cs.all (·.toNat < 0x300) then cs
  else join (reorder (cs.flatMap (decompose 8))) none []

end ApiToolbox.Text.Composition
