import ApiToolbox.Json.Value
import ApiToolbox.Text.Utf8

/-!
Reading JSON text. The grammar is the strict one: no byte order mark, no comments, no trailing
commas, no lone surrogates, at most 127 containers inside one another. A text that is not JSON is
refused with the cause and with the line and byte column where reading stopped.
-/

namespace ApiToolbox.Json

inductive SyntaxError where
  | endInList
  | endInObject
  | endInString
  | endInValue
  | expectedColon
  | expectedCommaOrBracket
  | expectedCommaOrBrace
  | expectedIdent
  | expectedValue
  | invalidEscape
  | invalidNumber
  | numberOutOfRange
  | controlCharacter
  | keyNotString
  | loneSurrogate
  | trailingComma
  | trailingCharacters
  | unfinishedSurrogatePair
  | tooDeep
  deriving DecidableEq, Repr

def SyntaxError.message : SyntaxError → String
  | endInList => "EOF while parsing a list"
  | endInObject => "EOF while parsing an object"
  | endInString => "EOF while parsing a string"
  | endInValue => "EOF while parsing a value"
  | expectedColon => "expected `:`"
  | expectedCommaOrBracket => "expected `,` or `]`"
  | expectedCommaOrBrace => "expected `,` or `\x7d`"
  | expectedIdent => "expected ident"
  | expectedValue => "expected value"
  | invalidEscape => "invalid escape"
  | invalidNumber => "invalid number"
  | numberOutOfRange => "number out of range"
  | controlCharacter => "control character (\\u0000-\\u001F) found while parsing a string"
  | keyNotString => "key must be a string"
  | loneSurrogate => "lone leading surrogate in hex escape"
  | trailingComma => "trailing comma"
  | trailingCharacters => "trailing characters"
  | unfinishedSurrogatePair => "unexpected end of hex escape"
  | tooDeep => "recursion limit exceeded"

/-- Where and why reading stopped: `ahead` bytes into what was left of the text. -/
structure Stop where
  cause : SyntaxError
  rest : List Char
  ahead : Nat
  deriving Repr

/-- Stop in front of what is left. -/
def stopAt {α : Type} (cause : SyntaxError) (rest : List Char) : Except Stop α :=
  .error ⟨cause, rest, 0⟩

/-- Stop at the next byte, if there is one: of a character of several bytes, at its first. -/
def stopOn {α : Type} (cause : SyntaxError) (rest : List Char) : Except Stop α :=
  .error ⟨cause, rest, 1⟩

def isSpace (c : Char) : Bool := c = ' ' || c = '\n' || c = '\t' || c = '\r'

def skipSpace (cs : List Char) : List Char := cs.dropWhile isSpace

def literal (value : Value) : List Char → List Char → Except Stop (Value × List Char)
  | [], cs => .ok (value, cs)
  | _ :: _, [] => stopAt .endInValue []
  | e :: es, c :: cs => if c = e then literal value es cs else stopOn .expectedIdent (c :: cs)

def hexValue? (c : Char) : Option Nat :=
  if c.isDigit then some (c.toNat - 48)
  else if 'a' ≤ c && c ≤ 'f' then some (c.toNat - 87)
  else if 'A' ≤ c && c ≤ 'F' then some (c.toNat - 55)
  else none

def fourHex : List Char → Except Stop (Nat × List Char)
  | a :: b :: c :: d :: rest =>
    match hexValue? a, hexValue? b, hexValue? c, hexValue? d with
    | some a, some b, some c, some d => .ok (((a * 16 + b) * 16 + c) * 16 + d, rest)
    | _, _, _, _ => .error ⟨.invalidEscape, a :: b :: c :: d :: rest, 4⟩
  | short =>
    if Text.Utf8.size short < 4 then stopAt .endInString []
    else .error ⟨.invalidEscape, short, 4⟩

/-- The character after `\u`, which may take a second escape. -/
def unicodeEscape (cs : List Char) : Except Stop (Char × List Char) := do
  let (high, rest) ← fourHex cs
  if 0xDC00 ≤ high && high ≤ 0xDFFF then stopAt .loneSurrogate rest
  else if high < 0xD800 || 0xDBFF < high then .ok (Char.ofNat high, rest)
  else
    match rest with
    | '\\' :: 'u' :: rest => do
      let (low, rest) ← fourHex rest
      if 0xDC00 ≤ low && low ≤ 0xDFFF then
        .ok (Char.ofNat (0x10000 + (high - 0xD800) * 0x400 + (low - 0xDC00)), rest)
      else stopAt .loneSurrogate rest
    | ['\\'] => stopAt .endInString []
    | '\\' :: rest => stopOn .unfinishedSurrogatePair rest
    | [] => stopAt .endInString []
    | rest => stopOn .unfinishedSurrogatePair rest

/-- The character that stands for itself or for a control after a backslash. -/
def shortEscape? : Char → Option Char
  | '"' => some '"'
  | '\\' => some '\\'
  | '/' => some '/'
  | 'b' => some '\x08'
  | 'f' => some '\x0c'
  | 'n' => some '\n'
  | 'r' => some '\r'
  | 't' => some '\t'
  | _ => none

/-- Read a string after its opening quote; `fuel` bounds the characters. -/
def stringTail : Nat → List Char → List Char → Except Stop (String × List Char)
  | 0, _, cs => stopAt .endInString cs
  | _ + 1, _, [] => stopAt .endInString []
  | fuel + 1, acc, c :: cs =>
    if c = '"' then .ok (String.ofList acc.reverse, cs)
    else if c = '\\' then
      match cs with
      | [] => stopAt .endInString []
      | 'u' :: rest => do
        let (e, rest) ← unicodeEscape rest
        stringTail fuel (e :: acc) rest
      | e :: rest =>
        match shortEscape? e with
        | some e => stringTail fuel (e :: acc) rest
        | none => stopOn .invalidEscape (e :: rest)
    else if c.toNat < 0x20 then stopAt .controlCharacter cs
    else stringTail fuel (c :: acc) cs

def string (cs : List Char) : Except Stop (String × List Char) := stringTail (cs.length + 1) [] cs

/-- The double `significand * 10 ^ power`, where the significand is rounded before it is scaled, and
scaling goes by at most 308 decimal places at a time. `none` when it is out of range. -/
def scale? (significand : Nat) (power : Int) : Option Binary64 := do
  go 4 (← Binary64.nearest? false significand 1) power
where
  go : Nat → Binary64 → Int → Option Binary64
    | 0, _, _ => none
    | tries + 1, x, power => do
      if x.isZero then some x
      else if 308 < power then none
      else if 0 ≤ power then x.mul? (← Binary64.ofDecimal? false 1 power)
      else if -308 ≤ power then x.div? (← Binary64.ofDecimal? false 1 (-power))
      else go tries (← x.div? (← Binary64.ofDecimal? false 1 308)) (power + 308)

/-- Significands are kept in 64 bits; the bound is exclusive. -/
def significandLimit : Nat := Nat.pow 2 64

/-- A double of a sign from its significand and power of ten. -/
def double (negative : Bool) (significand : Nat) (power : Int) (rest : List Char) :
    Except Stop (Number × List Char) :=
  match scale? significand power with
  | some x => .ok (.double (if negative then x.neg else x), rest)
  | none => stopAt .numberOutOfRange rest

/-- Digits of an exponent after the first; it stops where the exponent leaves 32 bits. -/
def exponentDigits (acc : Nat) : List Char → Except (List Char) (Nat × List Char)
  | [] => .ok (acc, [])
  | c :: r =>
    if c.isDigit then
      let n := acc * 10 + (c.toNat - 48)
      if Nat.pow 2 31 ≤ n then .error r else exponentDigits n r
    else .ok (acc, c :: r)

/-- The exponent after `e`, applied to a significand that stands at `10 ^ power`. -/
def exponent (negative : Bool) (significand : Nat) (power : Int) (cs : List Char) :
    Except Stop (Number × List Char) :=
  let (down, cs) := match cs with
    | '+' :: r => (false, r)
    | '-' :: r => (true, r)
    | r => (false, r)
  match cs with
  | [] => stopAt .endInValue []
  | c :: r =>
    if c.isDigit then
      match exponentDigits (c.toNat - 48) r with
      | .ok (n, rest) =>
        double negative significand (if down then power - n else power + n) rest
      | .error rest =>
        if significand ≠ 0 && !down then stopAt .numberOutOfRange rest
        else .ok (.double (Binary64.zero negative), rest.dropWhile Char.isDigit)
    else stopOn .invalidNumber (c :: r)

/-- What may follow the digits of a double: an exponent or nothing. -/
def doubleTail (negative : Bool) (significand : Nat) (power : Int) (cs : List Char) :
    Except Stop (Number × List Char) :=
  match cs with
  | c :: r =>
    if c = 'e' || c = 'E' then exponent negative significand power r
    else double negative significand power cs
  | [] => double negative significand power []

/-- Digits after the point while the significand has room: significand, how many, the rest, and
whether room ran out. -/
def fractionDigits (significand count : Nat) : List Char → Nat × Nat × List Char
  | [] => (significand, count, [])
  | c :: r =>
    if c.isDigit then
      let n := significand * 10 + (c.toNat - 48)
      if significandLimit ≤ n then (significand, count, c :: r) else fractionDigits n (count + 1) r
    else (significand, count, c :: r)

/-- The digits after a decimal point; those beyond the room of the significand are dropped. -/
def fraction (negative : Bool) (significand : Nat) (power : Int) (cs : List Char) :
    Except Stop (Number × List Char) :=
  match cs with
  | [] => stopAt .endInValue []
  | c :: _ =>
    if c.isDigit then
      let (significand, count, rest) := fractionDigits significand 0 cs
      doubleTail negative significand (power - count) (rest.dropWhile Char.isDigit)
    else stopOn .invalidNumber cs

/-- Whole digits while the significand has room. -/
def wholeDigits (significand : Nat) : List Char → Nat × List Char
  | [] => (significand, [])
  | c :: r =>
    if c.isDigit then
      let n := significand * 10 + (c.toNat - 48)
      if significandLimit ≤ n then (significand, c :: r) else wholeDigits n r
    else (significand, c :: r)

/-- The number after its whole digits. Integers are those from `-2 ^ 63` to `2 ^ 64 - 1`, negative zero
excepted. -/
def numberTail (negative : Bool) (significand : Nat) (cs : List Char) : Except Stop (Number × List Char) :=
  match cs with
  | '.' :: r => fraction negative significand 0 r
  | 'e' :: r => exponent negative significand 0 r
  | 'E' :: r => exponent negative significand 0 r
  | rest =>
    if !negative then .ok (.integer significand, rest)
    else if significand = 0 || Nat.pow 2 63 < significand then double true significand 0 rest
    else .ok (.integer (-significand), rest)

/-- A number after its sign. -/
def number (negative : Bool) : List Char → Except Stop (Number × List Char)
  | [] => stopAt .endInValue []
  | c :: r =>
    if c = '0' then
      match r with
      | d :: _ => if d.isDigit then stopOn .invalidNumber r else numberTail negative 0 r
      | [] => numberTail negative 0 []
    else if c.isDigit then
      match wholeDigits (c.toNat - 48) r with
      | (significand, d :: rest) =>
        if d.isDigit then
          let dropped := (d :: rest).takeWhile Char.isDigit
          match (d :: rest).dropWhile Char.isDigit with
          | '.' :: rest => fraction negative significand dropped.length rest
          | rest => doubleTail negative significand dropped.length rest
        else numberTail negative significand (d :: rest)
      | (significand, []) => numberTail negative significand []
    else stopOn .invalidNumber (c :: r)

/-- What becomes of a key that comes again in an object. -/
inductive Repeats where
  /-- Its last value counts, at its first place. -/
  | merged
  /-- Every member is kept as written. -/
  | kept
  deriving DecidableEq, Repr

def Repeats.add (repeats : Repeats) (ms : Members Value) (key : String) (value : Value) :
    Members Value :=
  match repeats with
  | .merged => ms.put key value
  | .kept => ms ++ [(key, value)]

mutual

/-- Read a value inside containers of which `depth` more may be opened. -/
def value (repeats : Repeats) : Nat → Nat → List Char → Except Stop (Value × List Char)
  | 0, _, cs => stopAt .tooDeep cs
  | fuel + 1, depth, cs =>
    match skipSpace cs with
    | [] => stopAt .endInValue []
    | c :: r =>
      if c = 'n' then literal .null ['u', 'l', 'l'] r
      else if c = 't' then literal (.bool true) ['r', 'u', 'e'] r
      else if c = 'f' then literal (.bool false) ['a', 'l', 's', 'e'] r
      else if c = '-' then (number true r).map fun (n, rest) => (.number n, rest)
      else if c.isDigit then (number false (c :: r)).map fun (n, rest) => (.number n, rest)
      else if c = '"' then (string r).map fun (s, rest) => (.string s, rest)
      else if c = '[' then
        match depth with
        | 0 => stopOn .tooDeep (c :: r)
        | depth + 1 => items repeats fuel depth true [] r
      else if c = '{' then
        match depth with
        | 0 => stopOn .tooDeep (c :: r)
        | depth + 1 => members repeats fuel depth true [] r
      else stopOn .expectedValue (c :: r)

/-- Read the items of a list up to its closing bracket; `first` before any item. -/
def items (repeats : Repeats) : Nat → Nat → Bool → List Value → List Char → Except Stop (Value × List Char)
  | 0, _, _, _, cs => stopAt .tooDeep cs
  | fuel + 1, depth, first, acc, cs =>
    match skipSpace cs with
    | [] => stopAt .endInList []
    | c :: r =>
      if c = ']' then .ok (.array acc.reverse, r)
      else if first then do
        let (v, rest) ← value repeats fuel depth (c :: r)
        items repeats fuel depth false (v :: acc) rest
      else if c = ',' then
        match skipSpace r with
        | [] => stopAt .endInValue []
        | d :: r =>
          if d = ']' then stopOn .trailingComma (d :: r)
          else do
            let (v, rest) ← value repeats fuel depth (d :: r)
            items repeats fuel depth false (v :: acc) rest
      else stopOn .expectedCommaOrBracket (c :: r)

/-- Read the members of an object up to its closing brace; `first` before any member. -/
def members (repeats : Repeats) :
    Nat → Nat → Bool → Members Value → List Char → Except Stop (Value × List Char)
  | 0, _, _, _, cs => stopAt .tooDeep cs
  | fuel + 1, depth, first, acc, cs =>
    match skipSpace cs with
    | [] => stopAt .endInObject []
    | c :: r =>
      if c = '}' then .ok (.object acc, r)
      else if first then
        if c = '"' then member repeats fuel depth acc r
        else stopOn .keyNotString (c :: r)
      else if c = ',' then
        match skipSpace r with
        | [] => stopAt .endInValue []
        | d :: r =>
          if d = '"' then member repeats fuel depth acc r
          else if d = '}' then stopOn .trailingComma (d :: r)
          else stopOn .keyNotString (d :: r)
      else stopOn .expectedCommaOrBrace (c :: r)

/-- Read one member after the opening quote of its key, and the members after it. -/
def member (repeats : Repeats) : Nat → Nat → Members Value → List Char → Except Stop (Value × List Char)
  | 0, _, _, cs => stopAt .tooDeep cs
  | fuel + 1, depth, acc, cs => do
    let (key, rest) ← string cs
    match skipSpace rest with
    | [] => stopAt .endInObject []
    | c :: r =>
      if c = ':' then do
        let (v, rest) ← value repeats fuel depth r
        members repeats fuel depth false (repeats.add acc key v) rest
      else stopOn .expectedColon (c :: r)

end

/-- How many containers may be open at once. -/
def depthLimit : Nat := 127

def document (repeats : Repeats) (cs : List Char) : Except Stop Value := do
  let (v, rest) ← value repeats (3 * cs.length + 3) depthLimit cs
  match skipSpace rest with
  | [] => .ok v
  | rest => stopOn .trailingCharacters rest

/-- A refusal with its place: lines count from one, columns count bytes of the line. -/
structure Refusal where
  cause : SyntaxError
  line : Nat
  column : Nat
  deriving DecidableEq, Repr

/-- Walk `offset` bytes into a text, counting lines and the bytes of the last one. -/
def place (offset line column : Nat) : List Char → Nat × Nat
  | [] => (line, column)
  | c :: r =>
    if offset < c.utf8Size then (line, column + offset)
    else if c = '\n' then place (offset - 1) (line + 1) 0 r
    else place (offset - c.utf8Size) line (column + c.utf8Size) r

/-- The place of a stop in the whole text. -/
def Stop.refusal (stop : Stop) (text : List Char) : Refusal :=
  let total := Text.Utf8.size text
  let offset := min total (total - Text.Utf8.size stop.rest + stop.ahead)
  let (line, column) := place offset 1 0 text
  ⟨stop.cause, line, column⟩

def Refusal.message (r : Refusal) : String :=
  r.cause.message ++ " at line " ++ toString r.line ++ " column " ++ toString r.column

def parse (text : String) : Except Refusal Value :=
  (document .merged text.toList).mapError (·.refusal text.toList)

/-- Read a text as one JSON value whose objects keep repeated keys. -/
def parseKeeping? (text : String) : Option Value :=
  (document .kept text.toList).toOption

end ApiToolbox.Json
