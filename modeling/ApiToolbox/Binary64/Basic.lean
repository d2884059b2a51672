/-!
Finite binary64 numbers as exact dyadic fractions, and rounding of a fraction to the nearest of
them. All arithmetic is done on natural numbers, so the value of a number is what its fields say.
-/

namespace ApiToolbox

/-- The number `± significand * 2 ^ exponent`. Numbers made by `Binary64.nearest?` are in normal form:
the significand is below `2 ^ 53`, and at least `2 ^ 52` unless the exponent is the least one. -/
structure Binary64 where
  negative : Bool
  significand : Nat
  exponent : Int
  deriving DecidableEq, Repr, Inhabited

namespace Binary64

def leastExponent : Int := -1074
def greatestExponent : Int := 971

def zero (negative : Bool) : Binary64 := ⟨negative, 0, leastExponent⟩

def isZero (x : Binary64) : Bool := x.significand = 0

def ratio (x : Binary64) : Nat × Nat :=
  if 0 ≤ x.exponent then (x.significand * Nat.pow 2 x.exponent.toNat, 1)
  else (x.significand, Nat.pow 2 (-x.exponent).toNat)

/-- The number as an integer, if it has no fraction part. -/
def toInt? (x : Binary64) : Option Int :=
  let (num, den) := x.ratio
  if num % den = 0 then
    some (if x.negative then -((num / den : Nat) : Int) else ((num / den : Nat) : Int))
  else none

/-- Divide and round to the nearest integer, a half to the even neighbour. -/
def roundDiv (num den : Nat) : Nat :=
  let q := num / den
  let r := num % den
  if 2 * r < den then q else if den < 2 * r then q + 1 else q + q % 2

/-- The fraction `num / den` divided by `2 ^ e`. -/
def scaled (num den : Nat) (e : Int) : Nat × Nat :=
  if 0 ≤ e then (num, den * Nat.pow 2 e.toNat) else (num * Nat.pow 2 (-e).toNat, den)

/-- The exponent at which the fraction has a significand of 53 bits, or the least exponent. -/
def exponentFor (num den : Nat) : Int :=
  let e := max ((num.log2 : Int) - den.log2 - 53) leastExponent
  let (n, d) := scaled num den e
  if n / d < Nat.pow 2 53 then e else e + 1

/-- The nearest binary64 number to a fraction, a tie to the even significand; `none` when that would
be beyond the greatest finite one. -/
def nearest? (negative : Bool) (num den : Nat) : Option Binary64 :=
  if num = 0 then some (zero negative)
  else
    let e := exponentFor num den
    let (n, d) := scaled num den e
    let m := roundDiv n d
    let (m, e) := if m = Nat.pow 2 53 then (Nat.pow 2 52, e + 1) else (m, e)
    if greatestExponent < e then none else some ⟨negative, m, e⟩

/-- The nearest number to `± digits * 10 ^ power`. Powers far outside the range are settled
without computing them. -/
def ofDecimal? (negative : Bool) (digits : Nat) (power : Int) : Option Binary64 :=
  if digits = 0 then some (zero negative)
  else if 400 < power then none
  else if 0 ≤ power then nearest? negative (digits * Nat.pow 10 power.toNat) 1
  else if (digits.log2 : Int) + 3 * power < -1100 then some (zero negative)
  else nearest? negative digits (Nat.pow 10 (-power).toNat)

def neg (x : Binary64) : Binary64 := { x with negative := !x.negative }

def mul? (x y : Binary64) : Option Binary64 :=
  let (a, b) := x.ratio
  let (c, d) := y.ratio
  nearest? (x.negative != y.negative) (a * c) (b * d)

/-- The rounded quotient by a number other than zero, or `none` when it is out of range. -/
def div? (x y : Binary64) : Option Binary64 :=
  let (a, b) := x.ratio
  let (c, d) := y.ratio
  nearest? (x.negative != y.negative) (a * d) (b * c)

end Binary64
end ApiToolbox
