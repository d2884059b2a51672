import ApiToolbox.Binary64.Shortest

/-!
The written form of binary64 numbers in documents, addresses and argument texts, and the decimal
numerals that are read as one.
-/

namespace ApiToolbox.Binary64

/-- How shortest decimals are laid out: the scientific exponents written positionally. -/
structure Layout where
  leastPositional : Int
  greatestPositional : Int

/-- Numbers from `1e-5` up to below `1e16` are written positionally, always with a fraction; all others
with a signed exponent and no fraction that is zero. -/
def layout : Layout := ⟨-5, 15⟩

/-- Lay out the digits of a number other than zero whose last digit stands at `10 ^ power`. -/
def Layout.write (l : Layout) (digits : Nat) (power : Int) : List Char :=
  let ds := Nat.toDigits 10 digits
  let e := power + ds.length - 1
  if l.leastPositional ≤ e && e ≤ l.greatestPositional then
    if 0 ≤ power then ds ++ List.replicate power.toNat '0' ++ ['.', '0']
    else if 0 ≤ e then ds.take (e.toNat + 1) ++ '.' :: ds.drop (e.toNat + 1)
    else '0' :: '.' :: List.replicate (-e - 1).toNat '0' ++ ds
  else
    let mark := if e < 0 then ['e', '-'] else ['e', '+']
    let mantissa := match ds with
      | [] => []
      | [d] => [d]
      | d :: rest => d :: '.' :: rest
    mantissa ++ mark ++ Nat.toDigits 10 e.natAbs

def text (x : Binary64) : String :=
  let body :=
    if x.isZero then ['0', '.', '0']
    else
      let (digits, power) := x.shortest
      layout.write digits power
  String.ofList (if x.negative then '-' :: body else body)

/-- Read leading decimal digits: their value continued from `acc`, how many there were, and the
rest. -/
def digitRun (acc count : Nat) : List Char → Nat × Nat × List Char
  | [] => (acc, count, [])
  | c :: r =>
    if c.isDigit then digitRun (acc * 10 + (c.toNat - '0'.toNat)) (count + 1) r
    else (acc, count, c :: r)

def signedDigits? : List Char → Option Int
  | '-' :: r => match digitRun 0 0 r with
    | (n, _ + 1, []) => some (-(n : Int))
    | _ => none
  | '+' :: r => match digitRun 0 0 r with
    | (n, _ + 1, []) => some n
    | _ => none
  | r => match digitRun 0 0 r with
    | (n, _ + 1, []) => some n
    | _ => none

/-- Read an unsigned numeral: digits with an optional point, at least one digit on one side of it,
and an optional exponent. -/
def ofUnsignedNumeral? (negative : Bool) (cs : List Char) : Option Binary64 :=
  let (whole, wholeCount, rest) := digitRun 0 0 cs
  let (digits, fractionCount, rest) := match rest with
    | '.' :: r => digitRun whole 0 r
    | r => (whole, 0, r)
  if wholeCount + fractionCount = 0 then none
  else
    match rest with
    | [] => ofDecimal? negative digits (-(fractionCount : Int))
    | e :: r =>
      if e = 'e' || e = 'E' then
        (signedDigits? r).bind fun power => ofDecimal? negative digits (power - fractionCount)
      else none

/-- The number nearest to a decimal numeral with an optional sign; `none` for any other text and
for numerals beyond the finite range. -/
def ofNumeral? : List Char → Option Binary64
  | '-' :: r => ofUnsignedNumeral? true r
  | '+' :: r => ofUnsignedNumeral? false r
  | r => ofUnsignedNumeral? false r

end ApiToolbox.Binary64
