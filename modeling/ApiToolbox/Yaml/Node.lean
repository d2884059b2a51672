import ApiToolbox.Yaml.Token.Stream

/-!
YAML nodes and the grammar that builds them from tokens. A document is a node with the table of its
anchored nodes: an alias is kept as a number into that table, because a node may refer to one that
is still open. Anchors are numbered by how many different names came before; a name that is used
again takes a new number, and of two nodes with one number the later counts.
-/

namespace ApiToolbox.Yaml

inductive Node where
  | scalar (tag : Option String) (style : Style) (text : String)
  | sequence (tag : Option String) (items : List Node)
  | mapping (tag : Option String) (entries : List (Node × Node))
  | alias (anchor : Nat)
  deriving Repr, Inhabited

/-- An anchored node: its number, and how many events of the document came before it. -/
structure Anchored where
  number : Nat
  place : Nat
  node : Node
  deriving Repr

/-- A document: its content (`none` in an empty stream), its anchored nodes and the number of its
events, which are scalars, aliases, and beginnings and ends of collections. -/
structure Document where
  root : Option Node
  anchored : List Anchored
  events : Nat
  deriving Repr

/-- The node that an alias stands for: of those with its number, the last to begin. -/
def Document.anchor? (d : Document) (number : Nat) : Option Node :=
  ((d.anchored.filter (·.number = number)).foldl
    (fun best a => match best with
      | none => some a
      | some b => if b.place < a.place then some a else some b) none).map (·.node)

/-- What the grammar keeps while it reads a document. -/
structure Builder where
  tokens : List Token
  prefixes : List (String × String)
  names : List (String × Nat)
  anchored : List Anchored
  events : Nat
  deriving Repr

/-- A step of the grammar; it fails on a token that does not fit. -/
abbrev Build := StateT Builder Option

namespace Build

def next : Build Token := do return (← get).tokens.headD .streamEnd

def advance : Build Unit := modify fun b => { b with tokens := b.tokens.tail }

def event : Build Unit := modify fun b => { b with events := b.events + 1 }

/-- An absent node: an empty plain scalar. -/
def empty : Build Node := do
  event
  return .scalar none .plain ""

/-- Give a name the next number. -/
def declare (name : String) : Build Nat := do
  let b ← get
  let number := b.names.length
  let names := if b.names.any (·.1 = name) then
      b.names.map fun (n, i) => if n = name then (n, number) else (n, i)
    else b.names ++ [(name, number)]
  set { b with names }
  return number

def resolveTag (handle suffix : String) : Build String := do
  if handle = "" then return suffix
  else
    match (← get).prefixes.find? (·.1 = handle) with
    | some (_, start) => return start ++ suffix
    | none => failure

/-- The anchor and the tag in front of a node, in either order. -/
def properties : Build (Option String × Option String) := do
  match ← next with
  | .anchor name =>
    advance
    match ← next with
    | .tag handle suffix =>
      advance
      return (some name, some (← resolveTag handle suffix))
    | _ => return (some name, none)
  | .tag handle suffix =>
    advance
    match ← next with
    | .anchor name =>
      advance
      return (some name, some (← resolveTag handle suffix))
    | _ => return (none, some (← resolveTag handle suffix))
  | _ => return (none, none)

/-- Note that the node with this anchor has been read. -/
def keepAnchored (anchor : Option Nat) (place : Nat) (node : Node) : Build Node := do
  match anchor with
  | some number =>
    modify fun b => { b with anchored := b.anchored ++ [⟨number, place, node⟩] }
    return node
  | none => return node

/-- The beginning of a collection has been read. -/
def opened : Build Unit := do event; advance

mutual

/-- A node; `block` if block collections may stand here, `indentless` if the entries of a sequence may
stand at the column of their mapping. -/
def node : Nat → Bool → Bool → Build Node
  | 0, _, _ => failure
  | fuel + 1, block, indentless => do
    match ← next with
    | .alias name =>
      advance
      match (← get).names.find? (·.1 = name) with
      | some (_, number) =>
        event
        return .alias number
      | none => failure
    | _ =>
      let (name, tag) ← properties
      let place := (← get).events
      let anchor ← name.mapM declare
      keepAnchored anchor place (← content fuel block indentless (name.isSome || tag.isSome) tag)

/-- The content of a node after its anchor and tag. -/
def content : Nat → Bool → Bool → Bool → Option String → Build Node
  | 0, _, _, _, _ => failure
  | fuel + 1, block, indentless, mayBeEmpty, tag => do
    match ← next with
    | .blockEntry =>
      if indentless then
        event
        indentlessEntries fuel tag []
      else if mayBeEmpty then
        event
        return .scalar tag .plain ""
      else failure
    | .scalar text style =>
      event
      advance
      return .scalar tag style text
    | .flowSequenceStart => opened; flowEntries fuel tag true []
    | .flowMappingStart => opened; flowPairs fuel tag true []
    | .blockSequenceStart =>
      if block then opened; blockEntries fuel tag []
      else if mayBeEmpty then event; return .scalar tag .plain ""
      else failure
    | .blockMappingStart =>
      if block then opened; blockPairs fuel tag []
      else if mayBeEmpty then event; return .scalar tag .plain ""
      else failure
    | _ =>
      if mayBeEmpty then
        event
        return .scalar tag .plain ""
      else failure

def blockEntries : Nat → Option String → List Node → Build Node
  | 0, _, _ => failure
  | fuel + 1, tag, acc => do
    match ← next with
    | .blockEntry =>
      advance
      let item ← match ← next with
        | .blockEntry | .blockEnd => empty
        | _ => node fuel true false
      blockEntries fuel tag (item :: acc)
    | .blockEnd =>
      event
      advance
      return .sequence tag acc.reverse
    | _ => failure

/-- The entries of a sequence at the column of its mapping. -/
def indentlessEntries : Nat → Option String → List Node → Build Node
  | 0, _, _ => failure
  | fuel + 1, tag, acc => do
    match ← next with
    | .blockEntry =>
      advance
      let item ← match ← next with
        | .blockEntry | .key | .value | .blockEnd => empty
        | _ => node fuel true false
      indentlessEntries fuel tag (item :: acc)
    | _ =>
      event
      return .sequence tag acc.reverse

def blockPairs : Nat → Option String → List (Node × Node) → Build Node
  | 0, _, _ => failure
  | fuel + 1, tag, acc => do
    match ← next with
    | .key =>
      advance
      let k ← match ← next with
        | .key | .value | .blockEnd => empty
        | _ => node fuel true true
      let v ← blockValue fuel
      blockPairs fuel tag ((k, v) :: acc)
    | .blockEnd =>
      event
      advance
      return .mapping tag acc.reverse
    | _ => failure

def blockValue : Nat → Build Node
  | 0 => failure
  | fuel + 1 => do
    match ← next with
    | .value =>
      advance
      match ← next with
      | .key | .value | .blockEnd => empty
      | _ => node fuel true true
    | _ => empty

/-- The entries of a flow sequence. A pair without braces is a mapping of its own. -/
def flowEntries : Nat → Option String → Bool → List Node → Build Node
  | 0, _, _, _ => failure
  | fuel + 1, tag, first, acc => do
    if (← next) = .flowSequenceEnd then
      event
      advance
      return .sequence tag acc.reverse
    else
      if !first then
        if (← next) = .flowEntry then advance else failure
      match ← next with
      | .key =>
        opened
        let pair ← flowPair fuel
        flowEntries fuel tag false (pair :: acc)
      | .flowSequenceEnd =>
        event
        advance
        return .sequence tag acc.reverse
      | _ =>
        let item ← node fuel false false
        flowEntries fuel tag false (item :: acc)

/-- A pair in a flow sequence, after its key mark. -/
def flowPair : Nat → Build Node
  | 0 => failure
  | fuel + 1 => do
    let k ← match ← next with
      | .value | .flowEntry | .flowSequenceEnd =>
        advance
        empty
      | _ => node fuel false false
    let v ← match ← next with
      | .value =>
        advance
        match ← next with
        | .flowEntry | .flowSequenceEnd => empty
        | _ => node fuel false false
      | _ => empty
    event
    return .mapping none [(k, v)]

def flowPairs : Nat → Option String → Bool → List (Node × Node) → Build Node
  | 0, _, _, _ => failure
  | fuel + 1, tag, first, acc => do
    if (← next) = .flowMappingEnd then
      event
      advance
      return .mapping tag acc.reverse
    else
      if !first then
        if (← next) = .flowEntry then advance else failure
      match ← next with
      | .key =>
        advance
        let k ← match ← next with
          | .value | .flowEntry | .flowMappingEnd => empty
          | _ => node fuel false false
        let v ← match ← next with
          | .value =>
            advance
            match ← next with
            | .flowEntry | .flowMappingEnd => empty
            | _ => node fuel false false
          | _ => empty
        flowPairs fuel tag false ((k, v) :: acc)
      | .flowMappingEnd =>
        event
        advance
        return .mapping tag acc.reverse
      | _ =>
        let k ← node fuel false false
        let v ← empty
        flowPairs fuel tag false ((k, v) :: acc)

end

/-- The directives in front of a document. Only one version may be given, and it must be 1.1 or 1.2;
a handle may be declared once. -/
def directives : Nat → Bool → Build Unit
  | 0, _ => failure
  | fuel + 1, versioned => do
    match ← next with
    | .version major minor =>
      if versioned || major ≠ 1 || (minor ≠ 1 && minor ≠ 2) then failure
      else
        advance
        directives fuel true
    | .tagDirective handle start =>
      if (← get).prefixes.any (·.1 = handle) then failure
      else
        modify fun b => { b with prefixes := b.prefixes ++ [(handle, start)] }
        advance
        directives fuel versioned
    | _ =>
      let declared := (← get).prefixes
      let standard := [("!", "!"), ("!!", "tag:yaml.org,2002:")].filter fun (h, _) =>
        !declared.any (·.1 = h)
      modify fun b => { b with prefixes := declared ++ standard }

/-- The document marks after a document, and nothing else. -/
def ending : Nat → Build Unit
  | 0 => failure
  | fuel + 1 => do
    match ← next with
    | .documentEnd =>
      advance
      ending fuel
    | .streamEnd => return ()
    | _ => failure

def document (fuel : Nat) : Build (Option Node) := do
  if (← next) = .streamEnd then return none
  else
    let explicit := match ← next with
      | .version .. | .tagDirective .. | .documentStart => true
      | _ => false
    directives fuel false
    let root ←
      if explicit then
        if (← next) ≠ .documentStart then failure
        else
          advance
          match ← next with
          | .version .. | .tagDirective .. | .documentStart | .documentEnd | .streamEnd => empty
          | _ => node fuel true false
      else node fuel true false
    ending fuel
    return some root

end Build

/-- The document of a text that holds at most one. -/
def Document.ofText? (text : List Char) : Option Document := do
  let tokens ← Token.ofText? text
  let (root, b) ← (Build.document (4 * tokens.length + 8)).run ⟨tokens, [], [], [], 0⟩
  some ⟨root, b.anchored, b.events⟩

end ApiToolbox.Yaml
