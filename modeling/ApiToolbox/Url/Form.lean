import ApiToolbox.Text.Blank
import ApiToolbox.Url.Percent

/-!
Form-encoded pairs, `key=value&key=value`: how they are written into the query of an address and how
they are read back.
-/

namespace ApiToolbox.Url

/-- A text in which everything but unreserved characters is escaped. -/
def encodeComponent (s : String) : String :=
  String.ofList (percentEncode isUnreserved s.toList)

namespace Form

def encodePair (pair : String × String) : List Char :=
  percentEncode isUnreserved pair.1.toList ++ '=' :: percentEncode isUnreserved pair.2.toList

def encode (pairs : List (String × String)) : String :=
  String.ofList (List.intercalate ['&'] (pairs.map encodePair))

/-- The text of one side of a pair: a plus sign is a space, escapes are bytes of UTF-8. -/
def decodeComponent (cs : List Char) : String :=
  String.ofList (Text.Utf8.decodeLossy (percentDecode (cs.map fun c => if c = '+' then ' ' else c)))

/-- One pair, cut at its first equals sign. -/
def decodePair (cs : List Char) : String × String :=
  match Text.cutAt? '=' cs with
  | some (key, value) => (decodeComponent key, decodeComponent value)
  | none => (decodeComponent cs, "")

/-- The pairs of a form-encoded text; empty pieces hold none. -/
def decode (s : String) : List (String × String) :=
  ((Text.splitOn '&' s.toList).filter (· ≠ [])).map decodePair

end Form
end ApiToolbox.Url
