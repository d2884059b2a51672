import ApiToolbox.Text.Utf8

/-!
Percent encoding: a byte outside a set of characters that stand for themselves is written as a percent
sign and two upper-case hexadecimal digits. Decoding leaves alone a percent sign that no two digits
follow.
-/

namespace ApiToolbox.Url

def upperHex (n : Nat) : Char := if n < 10 then Char.ofNat (48 + n) else Char.ofNat (55 + n)

def hexValue? (c : Char) : Option Nat :=
  if c.isDigit then some (c.toNat - 48)
  else if 'a' ≤ c && c ≤ 'f' then some (c.toNat - 87)
  else if 'A' ≤ c && c ≤ 'F' then some (c.toNat - 55)
  else none

def escapeByte (b : UInt8) : List Char :=
  ['%', upperHex (b.toNat / 16), upperHex (b.toNat % 16)]

/-- The characters for which `keep` holds as they are, the bytes of all others escaped. -/
def percentEncode (keep : Char → Bool) (cs : List Char) : List Char :=
  cs.flatMap fun c => if keep c then [c] else (Text.Utf8.encode [c]).flatMap escapeByte

/-- The bytes of a text whose escapes are decoded. -/
def percentDecode : List Char → List UInt8
  | [] => []
  | '%' :: a :: b :: rest =>
    match hexValue? a, hexValue? b with
    | some x, some y => UInt8.ofNat (x * 16 + y) :: percentDecode rest
    | _, _ => 37 :: percentDecode (a :: b :: rest)
  | c :: rest => String.utf8EncodeChar c ++ percentDecode rest

/-- Characters that need no escape anywhere: letters, digits, `-`, `.`, `_` and `~`. -/
def isUnreserved (c : Char) : Bool :=
  c.isAlphanum || c = '-' || c = '.' || c = '_' || c = '~'

def isPrintable (c : Char) : Bool := 0x20 ≤ c.toNat && c.toNat ≤ 0x7E

/-- What stands for itself in a fragment. -/
def keepInFragment (c : Char) : Bool := isPrintable c && !" \"<>`".toList.contains c

/-- What stands for itself in a path. -/
def keepInPath (c : Char) : Bool := keepInFragment c && !"#?\x7b\x7d".toList.contains c

/-- What stands for itself in a user name or password. -/
def keepInUserinfo (c : Char) : Bool := keepInPath c && !"/:;=@[\\]^|".toList.contains c

/-- What stands for itself in a query; the apostrophe does not in a web address. -/
def keepInQuery (special : Bool) (c : Char) : Bool :=
  isPrintable c && !" \"#<>".toList.contains c && !(special && c = '\'')

end ApiToolbox.Url
