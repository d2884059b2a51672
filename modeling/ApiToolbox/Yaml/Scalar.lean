import ApiToolbox.Json.Value

/-!
How scalars are written, and what plain ones mean: null, booleans, integers in four bases, finite and
infinite floats, and otherwise their own text. Digits after a leading zero are text.
-/

namespace ApiToolbox.Yaml

inductive Style where
  | plain
  | quoted
  | literal
  | folded
  deriving DecidableEq, Repr, Inhabited

namespace Scalar

/-- Null has four spellings besides the empty one. -/
def isNull (s : String) : Bool := s ∈ ["null", "Null", "NULL", "~"]

def bool? (s : String) : Option Bool :=
  if s ∈ ["true", "True", "TRUE"] then some true
  else if s ∈ ["false", "False", "FALSE"] then some false
  else none

def digit? (base : Nat) (c : Char) : Option Nat :=
  let n :=
    if c.isDigit then c.toNat - 48
    else if 'a' ≤ c && c ≤ 'f' then c.toNat - 87
    else if 'A' ≤ c && c ≤ 'F' then c.toNat - 55
    else base
  if n < base then some n else none

def digits? (base : Nat) (cs : List Char) : Option Nat :=
  if cs = [] then none
  else (cs.mapM (digit? base)).map (·.foldl (fun acc d => acc * base + d) 0)

/-- The base that a prefix announces, and what follows it. -/
def radix? : List Char → Option (Nat × List Char)
  | '0' :: 'x' :: r => some (16, r)
  | '0' :: 'o' :: r => some (8, r)
  | '0' :: 'b' :: r => some (2, r)
  | _ => none

def dropSign : List Char → List Char
  | '+' :: r => r
  | '-' :: r => r
  | r => r

/-- Several digits of which the first is zero, after an optional sign. -/
def isPadded (cs : List Char) : Bool :=
  match dropSign cs with
  | '0' :: d :: r => (d :: r).all Char.isDigit
  | _ => false

/-- An integer numeral without minus sign. -/
def natural? (s : String) : Option Nat :=
  let cs := s.toList
  let body := match cs with
    | '+' :: r => r
    | r => r
  match radix? body with
  | some (base, r) => digits? base r
  | none => if isPadded cs then none else digits? 10 body

/-- The magnitude of an integer numeral with a minus sign. -/
def negative? (s : String) : Option Nat :=
  match s.toList with
  | '-' :: r =>
    match radix? r with
    | some (base, r) => digits? base r
    | none => if isPadded s.toList then none else digits? 10 r
  | _ => none

/-- What an integer numeral is: in the range of 64-bit words, outside it but within 128 bits, or no
integer at all. -/
inductive Reading where
  | integer (n : Int)
  | tooWide
  | other
  deriving DecidableEq, Repr

def integer (s : String) : Reading :=
  match natural? s with
  | some n => if n < Nat.pow 2 64 then .integer n else if n < Nat.pow 2 128 then .tooWide else .other
  | none =>
    match negative? s with
    | some n => if n ≤ Nat.pow 2 63 then .integer (-n) else if n ≤ Nat.pow 2 127 then .tooWide else .other
    | none => .other

/-- Spellings of infinities and of the number that is none. -/
def isNonFinite (s : String) : Bool :=
  s ∈ [".inf", ".Inf", ".INF", "+.inf", "+.Inf", "+.INF", "-.inf", "-.Inf", "-.INF",
    ".nan", ".NaN", ".NAN"]

def float? (s : String) : Option Binary64 :=
  match s.toList with
  | '+' :: '+' :: _ => none
  | '+' :: '-' :: _ => none
  | '+' :: r => Binary64.ofNumeral? r
  | r => Binary64.ofNumeral? r

open Json (Value)

/-- A float as a value; those that are not finite have none but null. -/
def floatValue? (s : String) : Option Value :=
  if isNonFinite s then some .null else (float? s).map fun x => .number (.double x)

/-- The value of a plain scalar without tag; `none` for integers that are too wide. -/
def plainValue? (s : String) : Option Value :=
  if s = "" || isNull s then some .null
  else
    match bool? s with
    | some b => some (.bool b)
    | none =>
      match integer s with
      | .integer n => some (.int n)
      | .tooWide => none
      | .other =>
        if isPadded s.toList then some (.string s)
        else some ((floatValue? s).getD (.string s))

def boolTag : String := "tag:yaml.org,2002:bool"
def intTag : String := "tag:yaml.org,2002:int"
def floatTag : String := "tag:yaml.org,2002:float"
def nullTag : String := "tag:yaml.org,2002:null"

/-- A tag of the text's own, which no value can carry. -/
def isLocalTag (tag : Option String) : Bool := tag.any fun t => t.toList.head? = some '!'

/-- The value of a scalar with its tag and style. A tag of a standard kind demands that kind. -/
def value? (tag : Option String) (style : Style) (s : String) : Option Value :=
  match tag with
  | some t =>
    if isLocalTag tag then none
    else if t = boolTag then (bool? s).map .bool
    else if t = intTag then
      match integer s with
      | .integer n => some (.int n)
      | _ => none
    else if t = floatTag then floatValue? s
    else if t = nullTag then (if isNull s then some .null else none)
    else some (.string s)
  | none => if style = .plain then plainValue? s else some (.string s)

end Scalar
end ApiToolbox.Yaml
