import ApiToolbox.Settings.OfJson
import ApiToolbox.Yaml.Document

/-!
Settings from a YAML document. A setting that is a text takes the text of any scalar, whatever it would
mean elsewhere; only a choice of operations is read as a value.
-/

namespace ApiToolbox.Settings

open Json (Value)

namespace OfYaml

open Yaml (Node Document Style Scalar.isNull Scalar.nullTag Scalar.intTag)

/-- A reading of a node; the state counts the aliases followed. -/
abbrev Reading := StateT Nat Option

/-- Whether a scalar stands for nothing: a plain null without tag or with the tag of null, which no
other plain scalar may carry. -/
def isAbsent? (tag : Option String) (style : Style) (text : String) : Option Bool :=
  if style ≠ .plain then some false
  else
    match tag with
    | some t =>
      if t ≠ Scalar.nullTag then some false
      else if Scalar.isNull text then some true else none
    | none => some (text = "" || Scalar.isNull text)

/-- A setting that may be absent. -/
def optional {α : Type} (d : Document) (some? : Node → Reading α) (n : Node) : Reading (Option α) := do
  match ← d.follow n with
  | .scalar tag style text =>
    if ← (isAbsent? tag style text : Option Bool) then return none
    else return some (← some? (.scalar tag style text))
  | n => return some (← some? n)

/-- A policy: its name, or its name as the tag of nothing. -/
def policy (d : Document) (n : Node) : Reading DigestPolicy := do
  match ← d.follow n with
  | .scalar tag style text =>
    match tag.map String.toList with
    | some ('!' :: name) =>
      if style = .plain && (text = "" || Scalar.isNull text) then DigestPolicy.ofName? (String.ofList name)
      else failure
    | _ => DigestPolicy.ofName? text
  | _ => failure

/-- A list of texts; nothing at all is an empty list. -/
def texts (d : Document) (n : Node) : Reading (List String) := do
  match ← d.follow n with
  | .sequence _ items => items.mapM d.keyText
  | .scalar _ .plain "" => return []
  | _ => failure

/-- A natural number of 64 bits, as a plain scalar or as a literal one with the tag of integers. -/
def natural (d : Document) (n : Node) : Reading Nat := do
  match ← d.follow n with
  | .scalar tag style text =>
    if style = .plain || (style = .literal && tag = some Scalar.intTag) then
      ((Yaml.Scalar.natural? text).filter (· < Nat.pow 2 64) : Option Nat)
    else failure
  | _ => failure

/-- A node made of values; keys may be of any kind. -/
def isData (d : Document) (depth : Nat) (n : Node) : Reading Unit := do
  match ← d.follow n with
  | .scalar tag style text => if (Yaml.Scalar.value? tag style text).isNone then failure
  | .sequence tag items =>
    match depth with
    | 0 => failure
    | depth + 1 =>
      if Yaml.Scalar.isLocalTag tag then failure else items.forM (isData d depth)
  | .mapping tag entries =>
    match depth with
    | 0 => failure
    | depth + 1 =>
      if Yaml.Scalar.isLocalTag tag then failure
      else entries.forM fun (k, v) => do
        isData d depth k
        isData d depth v
  | .alias _ => failure

/-- The part of a choice that a key names: by name or by number. Any other name or number names
none, and nothing else can be a key. -/
def part? : Value → Option (Option String)
  | .string "include" => some (some "include")
  | .string "exclude" => some (some "exclude")
  | .string _ => some none
  | .number (.integer n) =>
    if n < 0 then none
    else if n = 0 then some (some "include")
    else if n = 1 then some (some "exclude")
    else some none
  | _ => none

def entry (d : Document) (depth : Nat) (k v : Node) : Reading (List (String × Value)) := do
  match ← (part? (← d.nodeValue depth k) : Option (Option String)) with
  | some part => return [(part, ← d.nodeValue depth v)]
  | none =>
    isData d depth v
    return []

/-- How deep collections may still be nested inside a choice of operations. -/
def choiceDepth : Nat := Yaml.depthLimit - 2

def discovery (d : Document) (n : Node) : Reading Discovery := do
  match ← d.follow n with
  | .mapping tag entries =>
    if Yaml.Scalar.isLocalTag tag then failure
    else
      let parts ← entries.mapM fun (k, v) => entry d choiceDepth k v
      (OfJson.discovery? (.object parts.flatten) : Option Discovery)
  | n => (OfJson.discovery? (← d.nodeValue choiceDepth n) : Option Discovery)

end OfYaml

def yamlReader (d : Yaml.Document) : Reader OfYaml.Reading Yaml.Node where
  refused := failure
  text := d.keyText
  optionalText := OfYaml.optional d d.keyText
  policy := OfYaml.policy d
  texts := OfYaml.texts d
  discovery := OfYaml.discovery d
  optionalNatural := OfYaml.optional d (OfYaml.natural d)

/-- Settings from a document, which must be a mapping; unknown keys do not count. -/
def ofYaml? (d : Yaml.Document) : Option Settings := do
  let root ← d.root
  let reading : OfYaml.Reading Settings := do
    match ← d.follow root with
    | .mapping _ entries =>
      let given ← entries.mapM fun (k, v) => return (Key.ofName? (← d.keyText k), v)
      readAll (yamlReader d) (given.filterMap fun (k, v) => k.map (·, v))
    | _ => failure
  (reading.run 0).map (·.1)

end ApiToolbox.Settings
