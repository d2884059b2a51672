/-!
White space: the characters with the Unicode property `White_Space`, and trimming them from both
ends of a text. The zero-width space and the byte order mark do not have the property.
-/

namespace ApiToolbox.Text

/-- A character of Unicode `White_Space`. -/
def isBlank (c : Char) : Bool :=
  let n := c.toNat
  (9 ≤ n && n ≤ 13) || n = 0x20 || n = 0x85 || n = 0xA0 || n = 0x1680 ||
    (0x2000 ≤ n && n ≤ 0x200A) || n = 0x2028 || n = 0x2029 || n = 0x202F || n = 0x205F ||
    n = 0x3000

def dropEndWhile (p : Char → Bool) (cs : List Char) : List Char :=
  (cs.reverse.dropWhile p).reverse

def trim (cs : List Char) : List Char :=
  dropEndWhile isBlank (cs.dropWhile isBlank)

def trimmed (s : String) : String :=
  String.ofList (trim s.toList)

def isBlankText (s : String) : Bool :=
  s.toList.all isBlank

/-- The trimmed text, if anything is left of it. -/
def nonBlank? (s : String) : Option String :=
  if isBlankText s then none else some (trimmed s)

/-- The ASCII capitals in lower case, everything else as it is. -/
def asciiLower (s : String) : String :=
  String.ofList (s.toList.map Char.toLower)

def asciiUpper (s : String) : String :=
  String.ofList (s.toList.map Char.toUpper)

/-- Replace the first occurrence of `old` in a text; a text without it stays as it is. -/
def replaceFirst (old new : List Char) : List Char → List Char
  | [] => if old.isEmpty then new else []
  | c :: r =>
    match old.isPrefixOf? (c :: r) with
    | some rest => new ++ rest
    | none => c :: replaceFirst old new r

/-- The pieces between the separators; a text without separator is one piece. -/
def splitOn (sep : Char) : List Char → List (List Char)
  | [] => [[]]
  | c :: r =>
    if c = sep then [] :: splitOn sep r
    else
      match splitOn sep r with
      | [] => [[c]]
      | piece :: pieces => (c :: piece) :: pieces

/-- Cut at the first separator, which belongs to neither side. -/
def cutAt? (sep : Char) : List Char → Option (List Char × List Char)
  | [] => none
  | c :: r =>
    if c = sep then some ([], r)
    else (cutAt? sep r).map fun (before, after) => (c :: before, after)

end ApiToolbox.Text
