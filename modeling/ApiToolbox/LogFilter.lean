import ApiToolbox.Text.Blank

/-!
Log filters: directives between commas. A directive is a level, or a target with perhaps a span in
brackets and a level. Only whether a filter can be read is decided here; logs themselves are no part of
any answer.
-/

namespace ApiToolbox.LogFilter

/-- A level by name in any case, or by number. -/
def isLevel (cs : List Char) : Bool :=
  let number := cs ≠ [] && cs.all Char.isDigit &&
    cs.foldl (fun n c => n * 10 + (c.toNat - 48)) 0 ≤ 5
  number || String.ofList (cs.map Char.toLower) ∈ ["off", "error", "warn", "info", "debug", "trace"]

inductive State where
  | start
  | target
  | span
  | field (isEmpty : Bool)
  | afterFields
  | afterSpan
  | level (begin : Nat)
  deriving DecidableEq, Repr

def startsTarget (c : Char) : Bool := c ∈ ['-', ':', '_'] || c.isAlphanum || 127 < c.toNat

/-- The state after a character, which stands at a place of the directive. -/
def step (place : Nat) : State → Char → Option State
  | .start, '[' => some .span
  | .start, c => if startsTarget c then some .target else none
  | .target, '=' => some (.level (place + 1))
  | .target, '[' => some .span
  | .target, _ => some .target
  | .span, ']' => some .afterSpan
  | .span, '{' => some (.field true)
  | .span, _ => some .span
  | .field isEmpty, '}' => if isEmpty then none else some .afterFields
  | .field _, _ => some (.field false)
  | .afterFields, ']' => some .afterSpan
  | .afterFields, _ => none
  | .afterSpan, '=' => some (.level (place + 1))
  | .afterSpan, _ => none
  | .level begin, _ => some (.level begin)

def steps : Nat → State → List Char → Option State
  | _, s, [] => some s
  | place, s, c :: cs => (step place s c).bind fun s => steps (place + 1) s cs

def isDirective (cs : List Char) : Bool :=
  match steps 0 .start (Text.trim cs) with
  | some .target => true
  | some .afterSpan => true
  | some (.level begin) => let level := cs.drop begin; level = [] || isLevel level
  | _ => false

/-- Whether a filter can be read. Empty directives do not count. -/
def isValid (filter : String) : Bool :=
  ((Text.splitOn ',' filter.toList).filter (· ≠ [])).all isDirective

end ApiToolbox.LogFilter
