import ApiToolbox.Url.Domain
import ApiToolbox.Url.Percent

/-!
Hosts: domain names, IPv4 addresses in any of their numeric spellings, and IPv6 addresses in brackets.
Addresses are written in one normal form.
-/

namespace ApiToolbox.Url

inductive Error where
  | relative
  | emptyHost
  | invalidDomain
  | invalidPort
  | invalidIpv4
  | invalidIpv6
  | invalidHostCharacter
  deriving DecidableEq, Repr

def Error.message : Error → String
  | relative => "relative URL without a base"
  | emptyHost => "empty host"
  | invalidDomain => "invalid international domain name"
  | invalidPort => "invalid port number"
  | invalidIpv4 => "invalid IPv4 address"
  | invalidIpv6 => "invalid IPv6 address"
  | invalidHostCharacter => "invalid domain character"

/-- A host: a name in its ASCII form, or an address of one of two kinds. -/
inductive Host where
  | domain (name : String)
  | ipv4 (address : Nat)
  | ipv6 (pieces : List Nat)
  deriving DecidableEq, Repr

namespace Host

/-- A digit of a base up to sixteen. -/
def digits? (base : Nat) (cs : List Char) : Option Nat := do
  let ds ← cs.mapM fun c => do
    let d ← hexValue? c
    if d < base then some d else none
  some (ds.foldl (fun n d => n * base + d) 0)

/-- A part of an IPv4 address: decimal, octal after `0`, hexadecimal after `0x`. -/
def ipv4Part? : List Char → Option Nat
  | [] => none
  | ['0'] => some 0
  | '0' :: 'x' :: r => digits? 16 r
  | '0' :: 'X' :: r => digits? 16 r
  | '0' :: r => digits? 8 r
  | r => digits? 10 r

/-- Whether a name can only be meant as an IPv4 address: its last part is a number. -/
def endsInNumber (name : List Char) : Bool :=
  let parts := (Text.splitOn '.' name).reverse
  let last := match parts with
    | [] :: rest => rest.head?
    | part :: _ => some part
    | [] => none
  match last with
  | some part => (part ≠ [] && part.all Char.isDigit) || (ipv4Part? part).isSome
  | none => false

/-- An IPv4 address of one to four parts; the last fills the bytes that are left. -/
def ipv4? (name : List Char) : Option Nat := do
  let parts := Text.splitOn '.' name
  let parts := if parts.getLast? = some [] then parts.dropLast else parts
  if 4 < parts.length then none
  else
    let numbers ← parts.mapM ipv4Part?
    let last ← numbers.getLast?
    let front := numbers.dropLast
    if last < Nat.pow 256 (4 - front.length) && front.all (· < 256) then
      some (front.foldl (fun n p => n * 256 + p) 0 * Nat.pow 256 (4 - front.length) + last)
    else none

/-- Up to four hexadecimal digits. -/
def ipv6Piece (cs : List Char) : Nat × Nat × List Char := go 4 0 0 cs
where
  go : Nat → Nat → Nat → List Char → Nat × Nat × List Char
    | 0, n, count, cs => (n, count, cs)
    | _ + 1, n, count, [] => (n, count, [])
    | fuel + 1, n, count, c :: r =>
      match hexValue? c with
      | some d => go fuel (n * 16 + d) (count + 1) r
      | none => (n, count, c :: r)

/-- The two pieces that a dotted decimal ending stands for. -/
def dottedPieces? (cs : List Char) : Option (List Nat) := do
  let parts := Text.splitOn '.' cs
  let numbers ← parts.mapM fun p =>
    if p = [] || (p.length ≠ 1 && p.head? = some '0') || 3 < p.length then none
    else (digits? 10 p).filter (· < 256)
  match numbers with
  | [a, b, c, d] => some [a * 256 + b, c * 256 + d]
  | _ => none

/-- The pieces of an IPv6 address, and the place of its `::`. -/
def ipv6Pieces? : Nat → List Nat → Option Nat → List Char → Option (List Nat × Option Nat)
  | 0, _, _, _ => none
  | fuel + 1, acc, gap, cs =>
    match cs with
    | [] => some (acc, gap)
    | ':' :: r =>
      if 8 ≤ acc.length || gap.isSome then none
      else ipv6Pieces? fuel acc (some acc.length) r
    | cs =>
      if 8 ≤ acc.length then none
      else
        let (n, count, rest) := ipv6Piece cs
        match rest with
        | '.' :: _ =>
          if count = 0 || 6 < acc.length then none
          else (dottedPieces? cs).map fun ps => (acc ++ ps, gap)
        | [':'] => none
        | ':' :: r => ipv6Pieces? fuel (acc ++ [n]) gap r
        | [] => some (acc ++ [n], gap)
        | _ => none

def ipv6? (cs : List Char) : Option (List Nat) := do
  let (pieces, gap) ←
    match cs with
    | ':' :: ':' :: r => ipv6Pieces? (cs.length + 1) [] (some 0) r
    | ':' :: _ => none
    | [] => none
    | cs => ipv6Pieces? (cs.length + 1) [] none cs
  match gap with
  | some g =>
    if 8 ≤ pieces.length then none
    else some (pieces.take g ++ List.replicate (8 - pieces.length) 0 ++ pieces.drop g)
  | none => if pieces.length = 8 then some pieces else none

def zeroRun (pieces : List Nat) : Nat := (pieces.takeWhile (· = 0)).length

/-- The first longest run of at least two zeros: where it begins and how long it is. -/
def longestZeroRun (pieces : List Nat) : Option (Nat × Nat) :=
  (List.range pieces.length).foldl
    (fun best i =>
      let n := zeroRun (pieces.drop i)
      if n < 2 then best
      else
        match best with
        | some (_, m) => if m < n then some (i, n) else best
        | none => some (i, n))
    none

def hexText (n : Nat) : List Char := Nat.toDigits 16 n

/-- The written form of an IPv6 address, without brackets. -/
def ipv6Text (pieces : List Nat) : List Char :=
  let colons (ps : List Nat) : List Char := List.intercalate [':'] (ps.map hexText)
  match longestZeroRun pieces with
  | some (i, n) => colons (pieces.take i) ++ [':', ':'] ++ colons (pieces.drop (i + n))
  | none => colons pieces

def ipv4Text (n : Nat) : List Char :=
  List.intercalate ['.']
    ([n / Nat.pow 256 3, n / Nat.pow 256 2 % 256, n / 256 % 256, n % 256].map (Nat.toDigits 10))

def text : Host → List Char
  | .domain name => name.toList
  | .ipv4 n => ipv4Text n
  | .ipv6 ps => '[' :: (ipv6Text ps ++ [']'])

/-- An IPv6 address in brackets, if the text begins with one. -/
def bracketed? (cs : List Char) : Option (Except Error Host) :=
  match cs with
  | '[' :: r =>
    some (if r.getLast? = some ']' then
      match ipv6? r.dropLast with
      | some ps => .ok (.ipv6 ps)
      | none => .error .invalidIpv6
    else .error .invalidIpv6)
  | _ => none

def parse (cs : List Char) : Except Error Host :=
  match bracketed? cs with
  | some host => host
  | none =>
    match Domain.toAscii? (percentDecode cs) with
    | none => .error .invalidDomain
    | some name =>
      if name = "" then .error .emptyHost
      else if endsInNumber name.toList then
        match ipv4? name.toList with
        | some n => .ok (.ipv4 n)
        | none => .error .invalidIpv4
      else .ok (.domain name)

/-- The host of an address of another kind: any characters but a few. -/
def parseOther (cs : List Char) : Except Error Host :=
  match bracketed? cs with
  | some host => host
  | none =>
    if cs.any fun c => "\x00\t\n\r #/:<>?@[\\]^|".toList.contains c then .error .invalidHostCharacter
    else .ok (.domain (String.ofList (percentEncode isPrintable cs)))

end Host
end ApiToolbox.Url
