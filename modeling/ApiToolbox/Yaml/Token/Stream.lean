import ApiToolbox.Yaml.Token

/-!
The token stream of a YAML text. Blocks are delimited by indentation, so the reader keeps the columns
of the open ones and writes their beginnings and ends as tokens. A key is known only by the colon
after it: the place of a token that may turn out to be a key is kept until then, and the key mark is
put in front of it.
-/

namespace ApiToolbox.Yaml.Token

/-- A token that a colon may make a key. It must be on the line of the colon and at most 1024
characters away; `required` if the block allows nothing else. -/
structure PossibleKey where
  required : Bool
  position : Nat
  index : Nat
  line : Nat
  column : Nat
  deriving Repr

/-- The reader: where it is, what it has written, and the blocks and flow collections that are open.
`possible` has one entry for the block level and one for each open flow collection. -/
structure Reader where
  cursor : Cursor
  tokens : Array Token
  indent : Int
  indents : List Int
  keyAllowed : Bool
  possible : Option PossibleKey
  outer : List (Option PossibleKey)
  deriving Repr

namespace Reader

def start (text : List Char) : Reader :=
  ⟨Cursor.start text, #[], -1, [], true, none, []⟩

def inFlow (r : Reader) : Bool := !r.outer.isEmpty

def emit (r : Reader) (t : Token) : Reader := { r with tokens := r.tokens.push t }

def insert (r : Reader) (position : Nat) (t : Token) : Reader :=
  { r with tokens := r.tokens.insertIdxIfInBounds position t }

/-- Open a block at a column deeper than the current one. -/
def openBlock (r : Reader) (column : Nat) (position : Nat) (t : Token) : Reader :=
  if r.inFlow || (column : Int) ≤ r.indent then r
  else { r.insert position t with indent := column, indents := r.indent :: r.indents }

def closeBlocks (r : Reader) (column : Int) : Reader :=
  if r.inFlow then r else loop r.indents r
where
  loop : List Int → Reader → Reader
    | [], r => r
    | outer :: rest, r =>
      if column < r.indent then loop rest { r.emit .blockEnd with indent := outer, indents := rest }
      else r

/-- Give up the possible key of the current level, unless it is required. -/
def dropKey? (r : Reader) : Option Reader :=
  if r.possible.any (·.required) then none else some { r with possible := none }

/-- Note that the next token may be a key. -/
def noteKey? (r : Reader) : Option Reader :=
  if r.keyAllowed then do
    let r ← r.dropKey?
    let c := r.cursor
    some { r with
      possible := some ⟨!r.inFlow && r.indent = c.column, r.tokens.size, c.index, c.line, c.column⟩ }
  else some r

/-- Whether a possible key is too far away by now. -/
def isStale (r : Reader) (k : PossibleKey) : Bool :=
  k.line < r.cursor.line || k.index + 1024 < r.cursor.index

/-- Give up a key that is too far away, unless it is required. -/
def refresh? (r : Reader) : Option PossibleKey → Option (Option PossibleKey)
  | none => some none
  | some k => if r.isStale k then (if k.required then none else some none) else some (some k)

/-- Give up all keys that are too far away. -/
def dropStaleKeys? (r : Reader) : Option Reader := do
  let possible ← r.refresh? r.possible
  let outer ← r.outer.mapM r.refresh?
  some { r with possible, outer }

def moveTo (r : Reader) (c : Cursor) : Reader := { r with cursor := c }

/-- Pass white space, comments and breaks up to the next token. A byte order mark may begin a line. -/
def skipToToken : Nat → Reader → Reader
  | 0, r => r
  | fuel + 1, r =>
    let c := r.cursor
    let c := if c.column = 0 && c.at_ '\uFEFF' then c.skip else c
    let tabs := r.inFlow || !r.keyAllowed
    let c := c.skipWhile fun ch => ch = ' ' || (tabs && ch = '\t')
    let c := if c.at_ '#' then c.skipToBreak else c
    if c.atBreak then
      skipToToken fuel { r with cursor := c.skipBreak, keyAllowed := r.keyAllowed || !r.inFlow }
    else r.moveTo c

/-- The end of everything: close all blocks. -/
def finish? (r : Reader) : Option (Array Token) := do
  let r ← (r.closeBlocks (-1)).dropKey?
  some (r.emit .streamEnd).tokens

/-- A token at the beginning of a line that ends all open blocks. -/
def atMargin? (r : Reader) : Option Reader := do
  let r ← (r.closeBlocks (-1)).dropKey?
  some { r with keyAllowed := false }

def openFlow? (r : Reader) (t : Token) : Option Reader := do
  let r ← r.noteKey?
  some { (r.moveTo r.cursor.skip).emit t with
    keyAllowed := true, possible := none, outer := r.possible :: r.outer }

def closeFlow? (r : Reader) (t : Token) : Option Reader := do
  let r ← r.dropKey?
  let r := match r.outer with
    | k :: rest => { r with possible := k, outer := rest }
    | [] => r
  some { (r.moveTo r.cursor.skip).emit t with keyAllowed := false }

def flowEntry? (r : Reader) : Option Reader := do
  let r ← r.dropKey?
  some { (r.moveTo r.cursor.skip).emit .flowEntry with keyAllowed := true }

def blockEntry? (r : Reader) : Option Reader := do
  if !r.inFlow && !r.keyAllowed then none
  else
    let r := r.openBlock r.cursor.column r.tokens.size .blockSequenceStart
    let r ← r.dropKey?
    some { (r.moveTo r.cursor.skip).emit .blockEntry with keyAllowed := true }

def key? (r : Reader) : Option Reader := do
  if !r.inFlow && !r.keyAllowed then none
  else
    let r := r.openBlock r.cursor.column r.tokens.size .blockMappingStart
    let r ← r.dropKey?
    some { (r.moveTo r.cursor.skip).emit .key with keyAllowed := !r.inFlow }

def value? (r : Reader) : Option Reader :=
  match r.possible with
  | some k =>
    let r := (r.insert k.position .key).openBlock k.column k.position .blockMappingStart
    some { (r.moveTo r.cursor.skip).emit .value with possible := none, keyAllowed := false }
  | none =>
    if !r.inFlow && !r.keyAllowed then none
    else
      let r := r.openBlock r.cursor.column r.tokens.size .blockMappingStart
      some { (r.moveTo r.cursor.skip).emit .value with keyAllowed := !r.inFlow }

/-- A token that may be a key, read by `read`. -/
def content? (r : Reader) (read : Cursor → Option (Token × Cursor)) : Option Reader := do
  let r ← r.noteKey?
  let (t, c) ← read r.cursor
  some { (r.moveTo c).emit t with keyAllowed := false }

def blockScalar? (r : Reader) (literal : Bool) : Option Reader := do
  let r ← r.dropKey?
  let (t, c) ← readBlockScalar? literal r.indent r.cursor
  some { (r.moveTo c).emit t with keyAllowed := true }

def plain? (r : Reader) : Option Reader := do
  let r ← r.noteKey?
  let (t, broken, c) ← readPlain? r.inFlow r.indent r.cursor
  some { (r.moveTo c).emit t with keyAllowed := broken }

/-- The characters that a plain scalar cannot begin with. -/
def indicators : List Char :=
  ['-', '?', ':', ',', '[', ']', '{', '}', '#', '&', '*', '!', '|', '>', '\'', '"', '%', '@', '`']

def startsPlain (r : Reader) : Bool :=
  let c := r.cursor
  match c.next? with
  | none => false
  | some ch =>
    (!isGap ch && !isBreak ch && !indicators.contains ch) ||
      (ch = '-' && !(c.peek? 1).any isGap) ||
      (!r.inFlow && (ch = '?' || ch = ':') && !c.spaceOrEndAfter 1)

def token? (r : Reader) : Option Reader :=
  let c := r.cursor
  let alone := c.spaceOrEndAfter 1
  if c.column = 0 && c.at_ '%' then do
    let r ← r.atMargin?
    let (t, c) ← readDirective? r.cursor
    some ((r.moveTo c).emit t)
  else if c.atDocumentMark '-' then do
    let r ← r.atMargin?
    some ((r.moveTo (r.cursor.skipN 3)).emit .documentStart)
  else if c.atDocumentMark '.' then do
    let r ← r.atMargin?
    some ((r.moveTo (r.cursor.skipN 3)).emit .documentEnd)
  else
    match c.next? with
    | some '[' => r.openFlow? .flowSequenceStart
    | some '{' => r.openFlow? .flowMappingStart
    | some ']' => r.closeFlow? .flowSequenceEnd
    | some '}' => r.closeFlow? .flowMappingEnd
    | some ',' => r.flowEntry?
    | some '*' => r.content? (readAnchor? true)
    | some '&' => r.content? (readAnchor? false)
    | some '!' => r.content? (readTag? r.inFlow)
    | some '\'' => r.content? (readQuoted? '\'')
    | some '"' => r.content? (readQuoted? '"')
    | some ch =>
      if ch = '-' && alone then r.blockEntry?
      else if ch = '?' && (r.inFlow || alone) then r.key?
      else if ch = ':' && (r.inFlow || alone) then r.value?
      else if ch = '|' && !r.inFlow then r.blockScalar? true
      else if ch = '>' && !r.inFlow then r.blockScalar? false
      else if r.startsPlain then r.plain?
      else none
    | none => none

def run? : Nat → Reader → Option (Array Token)
  | 0, _ => none
  | fuel + 1, r => do
    let r := r.skipToToken r.cursor.fuel
    let r ← r.dropStaleKeys?
    let r := r.closeBlocks r.cursor.column
    if r.cursor.rest = [] then r.finish?
    else
      let r ← r.token?
      run? fuel r

end Reader

/-- The tokens of a text; `none` if a character is not allowed or a token is malformed. -/
def ofText? (text : List Char) : Option (List Token) :=
  if text.all isAllowed then
    ((Reader.start text).run? (text.length + 2)).map Array.toList
  else none

end ApiToolbox.Yaml.Token
