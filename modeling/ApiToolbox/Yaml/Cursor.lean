/-!
A place in a YAML text: what is left of it, and the line and column reached. A line ends with a
carriage return, a line feed, both, or one of the Unicode breaks; the first four are read as a line
feed.
-/

namespace ApiToolbox.Yaml

def isBreak (c : Char) : Bool :=
  c = '\n' || c = '\r' || c = '\u0085' || c = '\u2028' || c = '\u2029'

/-- A space or a tab. -/
def isGap (c : Char) : Bool := c = ' ' || c = '\t'

/-- Letters, digits, `_` and `-`: the characters of anchors, directives and tag handles. -/
def isWord (c : Char) : Bool := c.isAlphanum || c = '_' || c = '-'

/-- The characters that a text may hold at all. -/
def isAllowed (c : Char) : Bool :=
  let n := c.toNat
  n = 9 || n = 10 || n = 13 || (0x20 ≤ n && n ≤ 0x7E) || n = 0x85 ||
    (0xA0 ≤ n && n ≤ 0xD7FF) || (0xE000 ≤ n && n ≤ 0xFFFD) || 0x10000 ≤ n

/-- A place in a text. `size` is the length of the whole text, `index` counts characters from its
beginning. -/
structure Cursor where
  rest : List Char
  size : Nat
  index : Nat
  line : Nat
  column : Nat
  deriving Repr

namespace Cursor

def start (text : List Char) : Cursor := ⟨text, text.length, 0, 0, 0⟩

/-- More steps than a reader can take that passes a character with each of them but the last. -/
def fuel (c : Cursor) : Nat := c.size + 1

def next? (c : Cursor) : Option Char := c.rest.head?

def peek? (c : Cursor) (n : Nat) : Option Char := c.rest[n]?

def at_ (c : Cursor) (ch : Char) : Bool := c.next? = some ch

def atBreak (c : Cursor) : Bool := c.next?.any isBreak
def atGap (c : Cursor) : Bool := c.next?.any isGap
def atBreakOrEnd (c : Cursor) : Bool := c.next?.all isBreak

/-- At a space, a tab, a break or the end. -/
def atSpaceOrEnd (c : Cursor) : Bool := c.next?.all fun ch => isGap ch || isBreak ch

/-- The same after `n` characters. -/
def spaceOrEndAfter (c : Cursor) (n : Nat) : Bool :=
  (c.peek? n).all fun ch => isGap ch || isBreak ch

/-- Pass one character of the line. -/
def skip (c : Cursor) : Cursor :=
  match c.rest with
  | [] => c
  | _ :: r => ⟨r, c.size, c.index + 1, c.line, c.column + 1⟩

/-- Pass `n` characters of the line. -/
def skipN (c : Cursor) : Nat → Cursor
  | 0 => c
  | n + 1 => c.skip.skipN n

/-- Pass a line break, if there is one, and give its text. -/
def takeBreak (c : Cursor) : List Char × Cursor :=
  match c.rest with
  | '\r' :: '\n' :: r => (['\n'], ⟨r, c.size, c.index + 2, c.line + 1, 0⟩)
  | ch :: r =>
    if isBreak ch then
      (if ch = '\u2028' || ch = '\u2029' then [ch] else ['\n'], ⟨r, c.size, c.index + 1, c.line + 1, 0⟩)
    else ([], c)
  | [] => ([], c)

def skipBreak (c : Cursor) : Cursor := c.takeBreak.2

def takeWhile (p : Char → Bool) (c : Cursor) : List Char × Cursor :=
  let run := c.rest.takeWhile p
  (run, ⟨c.rest.drop run.length, c.size, c.index + run.length, c.line, c.column + run.length⟩)

def skipWhile (p : Char → Bool) (c : Cursor) : Cursor := (c.takeWhile p).2

def skipToBreak (c : Cursor) : Cursor := c.skipWhile (!isBreak ·)

/-- The line begins with a mark of three characters that stands alone. -/
def atDocumentMark (c : Cursor) (ch : Char) : Bool :=
  c.column = 0 && c.rest.take 3 = [ch, ch, ch] && c.spaceOrEndAfter 3

end Cursor
end ApiToolbox.Yaml
