/-!
Punycode: a label of any characters written with letters, digits and hyphens. The characters outside
ASCII are given in the order of their code points, each as the distance from the one before, in a
variable-length number whose digit weights adapt to the distances seen.
-/

namespace ApiToolbox.Url.Punycode

/-- The letter or digit of a digit value: `a` to `z`, then `0` to `9`. -/
def digitChar (d : Nat) : Char :=
  if d < 26 then Char.ofNat (97 + d) else Char.ofNat (22 + d)

def digitValue? (c : Char) : Option Nat :=
  if 'a' ≤ c && c ≤ 'z' then some (c.toNat - 97)
  else if 'A' ≤ c && c ≤ 'Z' then some (c.toNat - 65)
  else if c.isDigit then some (c.toNat - 22)
  else none

/-- The threshold of the digit at weight position `k`. -/
def threshold (k bias : Nat) : Nat :=
  if k ≤ bias then 1 else if bias + 26 ≤ k then 26 else k - bias

theorem threshold_pos (k bias : Nat) : 1 ≤ threshold k bias := by
  unfold threshold
  split
  · omega
  · split <;> omega

theorem threshold_le (k bias : Nat) : threshold k bias ≤ 26 := by
  unfold threshold
  split
  · omega
  · split <;> omega

/-- Divide by 35 until at most 455 is left, counting 36 for each step. -/
def settle (delta k : Nat) : Nat × Nat :=
  if 455 < delta then settle (delta / 35) (k + 36) else (delta, k)
termination_by delta
decreasing_by exact Nat.div_lt_self (by omega) (by omega)

/-- The bias after a distance, when `count` characters have been placed. -/
def adapt (delta count : Nat) (first : Bool) : Nat :=
  let delta := if first then delta / 700 else delta / 2
  let (delta, k) := settle (delta + delta / count) 0
  k + 36 * delta / (delta + 38)

def digits (bias k n : Nat) : List Char :=
  let t := threshold k bias
  if n < t then [digitChar n]
  else digitChar (t + (n - t) % (36 - t)) :: digits bias (k + 36) ((n - t) / (36 - t))
termination_by n
decreasing_by
  have := threshold_pos k bias
  have := Nat.div_le_self (n - threshold k bias) (36 - threshold k bias)
  omega

/-- The writer: the text so far, the distance since the last character, the bias, and how many
characters have been placed. -/
structure Writer where
  text : List Char
  delta : Nat
  bias : Nat
  placed : Nat

/-- Pass one character of the label while the code point `n` is being placed. -/
def Writer.pass (basic n : Nat) (w : Writer) (c : Char) : Writer :=
  if c.toNat < n then { w with delta := w.delta + 1 }
  else if c.toNat = n then
    ⟨w.text ++ digits w.bias 36 w.delta, 0, adapt w.delta (w.placed + 1) (w.placed = basic),
      w.placed + 1⟩
  else w

/-- Place the code points of `points`, which ascend, from `n` on. -/
def Writer.place (label : List Char) (basic : Nat) : List Nat → Nat → Writer → Writer
  | [], _, w => w
  | m :: rest, n, w =>
    let w := { w with delta := w.delta + (m - n) * (w.placed + 1) }
    let w := label.foldl (Writer.pass basic m) w
    Writer.place label basic rest (m + 1) { w with delta := w.delta + 1 }

def encode (label : List Char) : List Char :=
  let basic := label.filter (·.toNat < 128)
  let points := ((label.filter (128 ≤ ·.toNat)).map Char.toNat).mergeSort.eraseDups
  let start := if basic = [] then [] else basic ++ ['-']
  (Writer.place label basic.length points 128 ⟨start, 0, 72, basic.length⟩).text

/-- Read one distance: its value and what is left. -/
def distance? (bias : Nat) : Nat → Nat → Nat → List Char → Option (Nat × List Char)
  | _, _, _, [] => none
  | acc, weight, k, c :: rest => do
    let d ← digitValue? c
    let acc := acc + d * weight
    if Nat.pow 2 32 ≤ acc then none
    else
      let t := threshold k bias
      if d < t then some (acc, rest)
      else distance? bias acc (weight * (36 - t)) (k + 36) rest

/-- Read the distances and insert their characters. `first` before any of them. -/
def insert? : Nat → Bool → List Char → Nat → Nat → Nat → List Char → Option (List Char)
  | 0, _, _, _, _, _, _ => none
  | _ + 1, _, label, _, _, _, [] => some label
  | fuel + 1, first, label, n, i, bias, cs => do
    let (d, rest) ← distance? bias 0 1 36 cs
    let count := label.length + 1
    let n := n + (i + d) / count
    let place := (i + d) % count
    if n.isValidChar then
      insert? fuel false (label.take place ++ Char.ofNat n :: label.drop place) n (place + 1)
        (adapt d count first) rest
    else none

def decode? (cs : List Char) : Option (List Char) :=
  let tail := cs.reverse.takeWhile (· ≠ '-')
  let (basic, rest) :=
    if tail.length = cs.length then ([], cs)
    else (cs.take (cs.length - tail.length - 1), tail.reverse)
  if basic.all (·.toNat < 128) then insert? (rest.length + 1) true basic 128 0 72 rest else none

end ApiToolbox.Url.Punycode
