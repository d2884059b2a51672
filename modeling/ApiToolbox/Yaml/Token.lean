import ApiToolbox.Text.Utf8
import ApiToolbox.Yaml.Cursor
import ApiToolbox.Yaml.Scalar

/-!
The tokens of YAML, and the readers of those that have a text of their own: directives, anchors, tags
and scalars.
-/

namespace ApiToolbox.Yaml

/-- What a text is made of; blocks have a beginning and an end of their own. -/
inductive Token where
  | streamEnd
  | version (major minor : Nat)
  | tagDirective (handle start : String)
  | documentStart
  | documentEnd
  | blockSequenceStart
  | blockMappingStart
  | blockEnd
  | flowSequenceStart
  | flowSequenceEnd
  | flowMappingStart
  | flowMappingEnd
  | blockEntry
  | flowEntry
  | key
  | value
  | alias (name : String)
  | anchor (name : String)
  | tag (handle suffix : String)
  | scalar (text : String) (style : Style)
  deriving DecidableEq, Repr, Inhabited

namespace Token

/-- Read the text of a comment or the blanks that may end a line, then the break. -/
def endLine? (c : Cursor) : Option Cursor :=
  let c := c.skipWhile isGap
  let c := if c.at_ '#' then c.skipToBreak else c
  if c.atBreakOrEnd then some c.skipBreak else none

/-! ### Tags -/

def octet? : List Char → Option (UInt8 × List Char)
  | '%' :: a :: b :: rest =>
    match hex? a, hex? b with
    | some a, some b => some (UInt8.ofNat (a * 16 + b), rest)
    | _, _ => none
  | _ => none
where
  hex? (c : Char) : Option Nat :=
    if c.isDigit then some (c.toNat - 48)
    else if 'a' ≤ c && c ≤ 'f' then some (c.toNat - 87)
    else if 'A' ≤ c && c ≤ 'F' then some (c.toNat - 55)
    else none

/-- How many bytes the sequence that a byte begins has. -/
def sequenceWidth (b : UInt8) : Nat :=
  if b < 0x80 then 1
  else if 0xC0 ≤ b && b < 0xE0 then 2
  else if 0xE0 ≤ b && b < 0xF0 then 3
  else if 0xF0 ≤ b && b < 0xF8 then 4
  else 0

/-- The percent-encoded bytes of one character. -/
def escapedBytes? (c : Cursor) : Option (List UInt8 × Cursor) := do
  let (b, _) ← octet? c.rest
  match sequenceWidth b with
  | 0 => none
  | n + 1 => more n [b] (c.skipN 3)
where
  more : Nat → List UInt8 → Cursor → Option (List UInt8 × Cursor)
    | 0, acc, c => some (acc, c)
    | n + 1, acc, c => do
      let (b, _) ← octet? c.rest
      if Text.Utf8.isContinuation b then more n (acc ++ [b]) (c.skipN 3) else none

/-- A character that may stand in a tag; inside `<` and `>` also `,`, `[` and `]`. -/
def isTagChar (verbatim : Bool) (c : Char) : Bool :=
  isWord c || c ∈ [';', '/', '?', ':', '@', '&', '=', '+', '$', '.', '%', '!', '~', '*', '\'', '(', ')'] ||
    (verbatim && c ∈ [',', '[', ']'])

/-- The characters of a tag, with percent escapes decoded. -/
def tagText? (verbatim : Bool) (c : Cursor) : Option (List Char × Cursor) :=
  (loop c.fuel [] c).map fun (bytes, c) => (Text.Utf8.decodeLossy bytes.reverse, c)
where
  loop : Nat → List UInt8 → Cursor → Option (List UInt8 × Cursor)
    | 0, acc, c => some (acc, c)
    | fuel + 1, acc, c =>
      match c.next? with
      | none => some (acc, c)
      | some ch =>
        if !isTagChar verbatim ch then some (acc, c)
        else if ch = '%' then do
          let (bytes, c) ← escapedBytes? c
          loop fuel (bytes.reverse ++ acc) c
        else loop fuel ((Text.Utf8.encode [ch]).reverse ++ acc) c.skip

/-- A tag handle: `!`, `!word!` or the beginning `!word` of a suffix. -/
def handle? (c : Cursor) : Option (List Char × Cursor) :=
  if c.at_ '!' then
    let (word, c) := c.skip.takeWhile isWord
    if c.at_ '!' then some ('!' :: (word ++ ['!']), c.skip) else some ('!' :: word, c)
  else none

/-- Whether a handle names a prefix: `!!` or `!word!`. -/
def isNamedHandle (handle : List Char) : Bool :=
  2 ≤ handle.length && handle.getLast? = some '!'

def readTag? (inFlow : Bool) (c : Cursor) : Option (Token × Cursor) := do
  let (handle, suffix, c) ←
    if c.peek? 1 = some '<' then do
      let (suffix, c) ← tagText? true (c.skipN 2)
      if suffix ≠ [] && c.at_ '>' then some ([], suffix, c.skip) else none
    else do
      let (handle, c) ← handle? c
      let (text, c) ← tagText? false c
      if isNamedHandle handle then
        if text = [] then none else some (handle, text, c)
      else
        let suffix := handle.drop 1 ++ text
        some (if suffix = [] then ([], ['!'], c) else (['!'], suffix, c))
  if c.atSpaceOrEnd || (inFlow && c.at_ ',') then
    some (.tag (String.ofList handle) (String.ofList suffix), c)
  else none

/-! ### Directives -/

/-- A number of at most nine digits. -/
def directiveNumber? (c : Cursor) : Option (Nat × Cursor) :=
  let (digits, c) := c.takeWhile Char.isDigit
  if digits = [] || 9 < digits.length then none
  else some (digits.foldl (fun n d => n * 10 + (d.toNat - 48)) 0, c)

/-- Read a directive; only versions and tag prefixes are known. -/
def readDirective? (c : Cursor) : Option (Token × Cursor) := do
  let (name, c) := c.skip.takeWhile isWord
  if name = [] || !c.atSpaceOrEnd then none
  else
    let c := c.skipWhile isGap
    let (token, c) ←
      if String.ofList name = "YAML" then do
        let (major, c) ← directiveNumber? c
        if !c.at_ '.' then none
        else
          let (minor, c) ← directiveNumber? c.skip
          some (.version major minor, c)
      else if String.ofList name = "TAG" then do
        let (handle, c) ← handle? c
        if (handle = ['!'] || isNamedHandle handle) && c.atGap then
          let (start, c) ← tagText? true (c.skipWhile isGap)
          if start ≠ [] && c.atSpaceOrEnd then
            some (.tagDirective (String.ofList handle) (String.ofList start), c)
          else none
        else none
      else none
    some (token, ← endLine? c)

/-! ### Anchors -/

def readAnchor? (isAlias : Bool) (c : Cursor) : Option (Token × Cursor) :=
  let (name, c) := c.skip.takeWhile isWord
  let ends := c.atSpaceOrEnd || c.next?.any (· ∈ ['?', ':', ',', ']', '}', '%', '@', '`'])
  if name = [] || !ends then none
  else some (if isAlias then .alias (String.ofList name) else .anchor (String.ofList name), c)

/-! ### Block scalars -/

/-- What a block scalar does with the breaks at its end. -/
inductive Chomping where
  | strip
  | clip
  | keep
  deriving DecidableEq, Repr

def chomping? : Option Char → Option Chomping
  | some '+' => some .keep
  | some '-' => some .strip
  | _ => none

def indentDigit? (c : Cursor) : Option (Option Nat × Cursor) :=
  match c.next? with
  | some d =>
    if d = '0' then none
    else if d.isDigit then some (some (d.toNat - 48), c.skip)
    else some (none, c)
  | none => some (none, c)

/-- The header after `|` or `>`: chomping and indentation in either order. -/
def blockHeader? (c : Cursor) : Option (Chomping × Option Nat × Cursor) := do
  let (chomp, increment, c) ←
    match chomping? c.next? with
    | some chomp => do
      let (increment, c) ← indentDigit? c.skip
      some (chomp, increment, c)
    | none => do
      let (increment, c) ← indentDigit? c
      match increment, chomping? c.next? with
      | some _, some chomp => some (chomp, increment, c.skip)
      | _, _ => some (.clip, increment, c)
  some (chomp, increment, ← endLine? c)

/-- Read indentation and the breaks of empty lines. With no indentation given, the deepest line of
them sets it, with `least` as a minimum. -/
def blockBreaks? (least : Nat) (indent : Option Nat) (c : Cursor) :
    Option (List Char × Nat × Cursor) :=
  loop c.fuel 0 [] c
where
  loop : Nat → Nat → List Char → Cursor → Option (List Char × Nat × Cursor)
    | 0, _, _, _ => none
    | fuel + 1, deepest, acc, c =>
      let c := match indent with
        | none => c.skipWhile (· = ' ')
        | some n =>
          let run := (c.rest.takeWhile (· = ' ')).length
          c.skipN (min run (n - c.column))
      let deepest := max deepest c.column
      let short := match indent with
        | none => true
        | some n => c.column < n
      if short && c.at_ '\t' then none
      else if c.atBreak then
        let (text, c) := c.takeBreak
        loop fuel deepest (acc ++ text) c
      else some (acc, indent.getD (max deepest (max least 1)), c)

/-- Read the lines of a block scalar. `acc` is the text so far in reverse, `lead` the break before the
current line, and `trail` the breaks of the empty lines after that. -/
def blockLines? (literal : Bool) (indent : Nat) :
    Nat → List Char → List Char → List Char → Bool → Cursor →
      Option (List Char × List Char × List Char × Cursor)
  | 0, _, _, _, _, _ => none
  | fuel + 1, acc, lead, trail, leadBlank, c =>
    if c.column = indent && c.next?.isSome then
      let blank := c.atGap
      let fold := !literal && lead.head? = some '\n' && !leadBlank && !blank
      let joint := if fold then (if trail = [] then [' '] else []) else lead
      let (line, c) := c.takeWhile (!isBreak ·)
      let (lead', c) := c.takeBreak
      match blockBreaks? 0 (some indent) c with
      | none => none
      | some (trail', _, c) =>
        blockLines? literal indent fuel ((joint ++ trail ++ line).reverse ++ acc) lead' trail' blank
          c
    else some (acc.reverse, lead, trail, c)

/-- Read a block scalar inside a block indented by `parent`. -/
def readBlockScalar? (literal : Bool) (parent : Int) (c : Cursor) : Option (Token × Cursor) := do
  let (chomp, increment, c) ← blockHeader? c.skip
  let indent := increment.map fun n => (if 0 ≤ parent then parent + n else (n : Int)).toNat
  let (trail, indent, c) ← blockBreaks? (parent + 1).toNat indent c
  let (text, lead, trail, c) ←
    blockLines? literal indent c.fuel [] [] trail false c
  let ending := match chomp with
    | .strip => []
    | .clip => lead
    | .keep => lead ++ trail
  some (.scalar (String.ofList (text ++ ending)) (if literal then .literal else .folded), c)

/-! ### Flow scalars -/

/-- The joint of two lines of a flow scalar, from the breaks between them. -/
def foldBreaks (lead trail : List Char) : List Char :=
  if lead.head? = some '\n' then (if trail = [] then [' '] else trail) else lead ++ trail

/-- The white space between two pieces of a flow scalar: the blanks if it has no break, else the first
break and the others; tabs before column `least` of a later line are refused. -/
structure Gap where
  blanks : List Char
  lead : List Char
  trail : List Char
  broken : Bool
  deriving Repr

def Gap.none : Gap := ⟨[], [], [], false⟩

def Gap.text (g : Gap) : List Char :=
  if g.broken then foldBreaks g.lead g.trail else g.blanks

/-- Read the white space after `g`. -/
def readGap? (least : Nat) : Nat → Gap → Cursor → Option (Gap × Cursor)
  | 0, g, c => some (g, c)
  | fuel + 1, g, c =>
    if c.atGap then
      if g.broken then
        if c.column < least && c.at_ '\t' then Option.none else readGap? least fuel g c.skip
      else readGap? least fuel { g with blanks := g.blanks ++ c.next?.toList } c.skip
    else if c.atBreak then
      let (text, c) := c.takeBreak
      if g.broken then readGap? least fuel { g with trail := g.trail ++ text } c
      else readGap? least fuel ⟨[], text, g.trail, true⟩ c
    else some (g, c)

def escape? : Char → Option Char
  | '0' => some '\x00'
  | 'a' => some '\x07'
  | 'b' => some '\x08'
  | 't' => some '\t'
  | '\t' => some '\t'
  | 'n' => some '\n'
  | 'v' => some '\x0b'
  | 'f' => some '\x0c'
  | 'r' => some '\r'
  | 'e' => some '\x1b'
  | ' ' => some ' '
  | '"' => some '"'
  | '/' => some '/'
  | '\\' => some '\\'
  | 'N' => some '\u0085'
  | '_' => some '\u00a0'
  | 'L' => some '\u2028'
  | 'P' => some '\u2029'
  | _ => none

/-- How many hexadecimal digits follow an escape letter. -/
def escapeDigits? : Char → Option Nat
  | 'x' => some 2
  | 'u' => some 4
  | 'U' => some 8
  | _ => none

/-- Exactly `n` hexadecimal digits as a character. -/
def codePoint? (n : Nat) (cs : List Char) : Option Char := do
  let digits ← (cs.take n).mapM octet?.hex?
  let code := digits.foldl (fun acc d => acc * 16 + d) 0
  if digits.length = n && code.isValidChar then some (Char.ofNat code) else none

/-- Read a piece of a quoted scalar up to white space or its closing quote; `acc` is the text so far in
reverse. The flag says that it ended with an escaped break. -/
def quotedPiece? (quote : Char) :
    Nat → List Char → Cursor → Option (List Char × Bool × Cursor)
  | 0, acc, c => some (acc, false, c)
  | fuel + 1, acc, c =>
    match c.rest with
    | [] => some (acc, false, c)
    | ch :: r =>
      if isGap ch || isBreak ch then some (acc, false, c)
      else if quote = '\'' && ch = '\'' && r.head? = some '\'' then
        quotedPiece? quote fuel ('\'' :: acc) (c.skipN 2)
      else if ch = quote then some (acc, false, c)
      else if quote = '"' && ch = '\\' then
        match r with
        | [] => none
        | e :: r =>
          if isBreak e then some (acc, true, c.skip.skipBreak)
          else
            match escape? e with
            | some ch => quotedPiece? quote fuel (ch :: acc) (c.skipN 2)
            | none => do
              let n ← escapeDigits? e
              let ch ← codePoint? n r
              quotedPiece? quote fuel (ch :: acc) (c.skipN (2 + n))
      else quotedPiece? quote fuel (ch :: acc) c.skip

/-- Read a quoted scalar from the text after its opening quote; `acc` is the text so far in reverse. -/
def quotedText? (quote : Char) : Nat → List Char → Cursor → Option (List Char × Cursor)
  | 0, _, _ => none
  | fuel + 1, acc, c =>
    if c.atDocumentMark '-' || c.atDocumentMark '.' || c.next? = none then none
    else do
      let (acc, escaped, c) ← quotedPiece? quote c.fuel acc c
      if c.at_ quote then some (acc.reverse, c.skip)
      else
        let (gap, c) ← readGap? 0 c.fuel { Gap.none with broken := escaped } c
        quotedText? quote fuel (gap.text.reverse ++ acc) c

def readQuoted? (quote : Char) (c : Cursor) : Option (Token × Cursor) := do
  let (text, c) ← quotedText? quote c.fuel [] c.skip
  some (.scalar (String.ofList text) .quoted, c)

/-- The indicators that end a plain scalar in a flow collection. -/
def isFlowEnd (c : Char) : Bool := c ∈ [',', '[', ']', '{', '}']

/-- Read a piece of a plain scalar up to white space or an indicator; `acc` is the piece so far in
reverse. -/
def plainPiece? (inFlow : Bool) : List Char → List Char → Option (List Char)
  | acc, [] => some acc.reverse
  | acc, ch :: r =>
    if isGap ch || isBreak ch then some acc.reverse
    else if inFlow && ch = ':' && r.head?.any fun d => isFlowEnd d || d = '?' then none
    else if ch = ':' && r.head?.all fun d => isGap d || isBreak d then some acc.reverse
    else if inFlow && isFlowEnd ch then some acc.reverse
    else plainPiece? inFlow (ch :: acc) r

/-- Read a plain scalar from what was read of it, in reverse, and the white space after that. The flag
of the answer says that it ended on a new line. -/
def plainText? (inFlow : Bool) (least : Nat) :
    Nat → List Char → Gap → Cursor → Option (List Char × Bool × Cursor)
  | 0, _, _, _ => none
  | fuel + 1, acc, gap, c =>
    if c.atDocumentMark '-' || c.atDocumentMark '.' || c.at_ '#' then
      some (acc.reverse, gap.broken, c)
    else do
      let piece ← plainPiece? inFlow [] c.rest
      let (acc, broken) :=
        if piece = [] then (acc, gap.broken) else ((gap.text ++ piece).reverse ++ acc, false)
      let carried := if piece = [] then gap else Gap.none
      let c := c.skipN piece.length
      if !c.atGap && !c.atBreak then some (acc.reverse, broken, c)
      else
        let (gap, c) ← readGap? least c.fuel carried c
        if !inFlow && c.column < least then some (acc.reverse, gap.broken, c)
        else plainText? inFlow least fuel acc gap c

/-- Read a plain scalar inside a block indented by `parent`. The flag says that it ended on a new
line. -/
def readPlain? (inFlow : Bool) (parent : Int) (c : Cursor) : Option (Token × Bool × Cursor) := do
  let (text, broken, c) ← plainText? inFlow (parent + 1).toNat c.fuel [] Gap.none c
  some (.scalar (String.ofList text) .plain, broken, c)

end Token
end ApiToolbox.Yaml
