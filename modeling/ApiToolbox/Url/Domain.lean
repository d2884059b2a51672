import ApiToolbox.Text.Blank
import ApiToolbox.Text.Composition
import ApiToolbox.Text.Utf8
import ApiToolbox.Url.Domain.Direction
import ApiToolbox.Url.Domain.Joiner
import ApiToolbox.Url.Domain.Table
import ApiToolbox.Url.Punycode

/-!
Domain names in ASCII. Characters are mapped (capitals to small letters, wide forms to plain ones),
the text is composed, and a label that is still not ASCII is written in Punycode behind `xn--`.
-/

namespace ApiToolbox.Url.Domain

def isForbidden (c : Char) : Bool :=
  c.toNat ≤ 0x20 || c.toNat = 0x7F || "%#/:<>?@[\\]^|".toList.contains c

/-- What a character is replaced by; `none` if no name may hold it. -/
def map? (c : Char) : Option (List Char) :=
  let n := c.toNat
  if n < 128 then some [c.toLower]
  else if Text.CodePoints.inRanges refused n then none
  else if Text.CodePoints.inRanges dropped n then some []
  else
    match Text.CodePoints.entry? spelled n with
    | some ns => some (ns.map Char.ofNat)
    | none =>
      match Text.CodePoints.floor? shifted n with
      | some [first, last, step, target] =>
        if n ≤ last && (n - first) % step = 0 then some [Char.ofNat (target + (n - first))]
        else some [c]
      | _ => some [c]

/-- A label that needs no mapping, does not begin with a mark, and has joiners only where they fit. -/
def isValidLabel (label : List Char) : Bool :=
  label.all (fun c => !isForbidden c && map? c = some [c]) &&
    !(label.head?.any Text.Composition.isMark) &&
    Text.Composition.compose label = label &&
    joinersFit [] label

/-- A label as it is read and as it is written in ASCII. -/
structure Label where
  text : List Char
  ascii : List Char
  deriving DecidableEq, Repr

/-- The label of a text that has been mapped. -/
def Label.ofMapped? (label : List Char) : Option Label :=
  match label with
  | 'x' :: 'n' :: '-' :: '-' :: code =>
    if label.all (·.toNat < 128) && !label.any isForbidden then
      match Punycode.decode? code with
      | some decoded =>
        if decoded.any (128 ≤ ·.toNat) && isValidLabel decoded && Punycode.encode decoded = code
        then some ⟨decoded, label⟩ else none
      | none => none
    else none
  | label =>
    if label.all (·.toNat < 128) then
      if label.any isForbidden then none else some ⟨label, label⟩
    else if isValidLabel label then some ⟨label, "xn--".toList ++ Punycode.encode label⟩
    else none

/-- The labels of a name, which all run one way if one of them has characters from the right. -/
def labels? (name : List Char) : Option (List Label) := do
  let mapped ← name.mapM map?
  let labels ← (Text.splitOn '.' (Text.Composition.compose mapped.flatten)).mapM Label.ofMapped?
  let fromRight := labels.any fun label => label.text.any fun c => (Direction.of c).isFromRight
  if fromRight && !labels.all (runsOneWay ·.text) then none else some labels

def toAscii? (bytes : List UInt8) : Option String := do
  let labels ← labels? (← Text.Utf8.decode? bytes)
  some (String.ofList (List.intercalate ['.'] (labels.map Label.ascii)))

end ApiToolbox.Url.Domain
