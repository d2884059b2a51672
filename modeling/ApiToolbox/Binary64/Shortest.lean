import ApiToolbox.Binary64.Basic

/-!
The shortest decimal of a binary64 number: the fewest digits that read back as the number, and of
those the nearest to it. A decimal reads back when it lies between the halfway points to the two
neighbouring numbers; the halfway points themselves count when the significand is even.
-/

namespace ApiToolbox.Binary64

/-- The interval of decimals that read back as the number, as fractions over one denominator. -/
structure Interval where
  low : Nat
  value : Nat
  high : Nat
  den : Nat
  closed : Bool
  deriving Repr

/-- The decimals that round to the magnitude of `x`. Below a power of two the lower neighbour is at
half the distance. -/
def interval (x : Binary64) : Interval :=
  let m := x.significand
  let lowStep := if m = Nat.pow 2 52 && leastExponent < x.exponent then 1 else 2
  let (num, den) := ratio ⟨false, 1, x.exponent - 2⟩
  ⟨(4 * m - lowStep) * num, 4 * m * num, (4 * m + 2) * num, den, m % 2 = 0⟩

def decimalExponent (num den : Nat) : Int :=
  let guess := ((num.log2 : Int) - den.log2) * 30103 / 100000
  let above (k : Int) : Bool :=
    if 0 ≤ k then den * Nat.pow 10 k.toNat ≤ num else den ≤ num * Nat.pow 10 (-k).toNat
  if above (guess + 1) then guess + 1 else if above guess then guess else guess - 1

namespace Interval

/-- The fraction `n / den` compared with `digits * 10 ^ power`: both sides over one denominator. -/
def sides (i : Interval) (n digits : Nat) (power : Int) : Nat × Nat :=
  if 0 ≤ power then (n, digits * Nat.pow 10 power.toNat * i.den)
  else (n * Nat.pow 10 (-power).toNat, digits * i.den)

def holds (i : Interval) (digits : Nat) (power : Int) : Bool :=
  let (lo, d) := i.sides i.low digits power
  let (hi, _) := i.sides i.high digits power
  if i.closed then lo ≤ d && d ≤ hi else lo < d && d < hi

/-- The decimal on the grid of `10 ^ power` that lies in the interval and is nearest to its value, a
tie to the even one. -/
def onGrid? (i : Interval) (power : Int) : Option Nat :=
  let (v, unit) := i.sides i.value 1 power
  let below := v / unit
  let lowHolds := i.holds below power
  let highHolds := i.holds (below + 1) power
  if lowHolds && highHolds then
    some (if roundDiv v unit = below then below else below + 1)
  else if lowHolds then some below
  else if highHolds then some (below + 1)
  else none

/-- Try grids from coarse to fine. -/
def search (i : Interval) : Nat → Int → Nat × Int
  | 0, power => ((i.onGrid? power).getD 0, power)
  | tries + 1, power =>
    match i.onGrid? power with
    | some digits => (digits, power)
    | none => search i tries (power - 1)

end Interval

/-- Move trailing zeros of the digits into the power of ten. -/
def stripZeros : Nat → Nat → Int → Nat × Int
  | 0, digits, power => (digits, power)
  | tries + 1, digits, power =>
    if digits ≠ 0 && digits % 10 = 0 then stripZeros tries (digits / 10) (power + 1)
    else (digits, power)

/-- The shortest decimal `digits * 10 ^ power` of a magnitude other than zero. -/
def shortest (x : Binary64) : Nat × Int :=
  let i := x.interval
  let (digits, power) := i.search 17 (decimalExponent i.value i.den)
  stripZeros 20 digits power

end ApiToolbox.Binary64
