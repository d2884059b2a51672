import ApiToolbox.Json.Parser
import ApiToolbox.Yaml.Node
import ApiToolbox.Yaml.Scalar

/-!
The value of a YAML document. Aliases are read as the nodes that they stand for; how deep
collections may nest and how often aliases may be followed is limited, so that a small text cannot
stand for a huge value.
-/

namespace ApiToolbox.Yaml

open Json (Value)

def depthLimit : Nat := 128

namespace Document

/-- Following aliases counts up to this many times the events of the document. -/
def followLimit (d : Document) : Nat := 100 * d.events

/-- The node itself, or the one that it is an alias of. The state counts the aliases followed. -/
def follow (d : Document) (n : Node) : StateT Nat Option Node := do
  match n with
  | .alias number =>
    let followed := (← get) + 1
    set followed
    if d.followLimit < followed then failure else d.anchor? number
  | n => return n

/-- The text of a scalar, which is what counts in a key. -/
def keyText (d : Document) (n : Node) : StateT Nat Option String := do
  match ← d.follow n with
  | .scalar _ _ text => return text
  | _ => failure

/-- The value of a node inside which collections may still be nested `depth` deep. -/
def nodeValue (d : Document) (depth : Nat) (n : Node) : StateT Nat Option Value := do
  match ← d.follow n with
  | .scalar tag style text => Scalar.value? tag style text
  | .sequence tag items =>
    match depth with
    | 0 => failure
    | depth + 1 =>
      if Scalar.isLocalTag tag then failure
      else return .array (← items.mapM (nodeValue d depth))
  | .mapping tag entries =>
    match depth with
    | 0 => failure
    | depth + 1 =>
      if Scalar.isLocalTag tag then failure
      else
        let members ← entries.mapM fun (k, v) => do
          let key ← d.keyText k
          return (key, ← nodeValue d depth v)
        return .object (Members.ofList members)
  | .alias _ => failure

/-- The value of a document; an empty stream is null. -/
def value? (d : Document) : Option Value :=
  match d.root with
  | none => some .null
  | some n => ((d.nodeValue depthLimit n).run 0).map (·.1)

end Document

def parse? (text : String) : Option Value :=
  (Document.ofText? text.toList).bind Document.value?

end ApiToolbox.Yaml
