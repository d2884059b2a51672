import ApiToolbox.Url.Domain.Direction.Table

/-!
The rule that keeps a domain name readable where some of it runs from the right: each label runs one
way from its first character to its last.
-/

namespace ApiToolbox.Url.Domain

inductive Direction where
  | left
  | right
  | arabicNumber
  | europeanNumber
  | neutral
  | nonspacing
  deriving DecidableEq, Repr

def Direction.of (c : Char) : Direction :=
  let n := c.toNat
  if n < 128 then
    if c.isAlpha then .left else if c.isDigit then .europeanNumber else .neutral
  else if Text.CodePoints.inRanges Domain.right n then .right
  else if Text.CodePoints.inRanges Domain.arabicNumber n then .arabicNumber
  else if Text.CodePoints.inRanges Domain.europeanNumber n then .europeanNumber
  else if Text.CodePoints.inRanges Domain.neutral n then .neutral
  else if Text.CodePoints.inRanges Domain.nonspacing n then .nonspacing
  else .left

/-- A label with such a character makes its whole name subject to the rule. -/
def Direction.isFromRight (d : Direction) : Bool := d = .right || d = .arabicNumber

def Direction.isNumber (d : Direction) : Bool := d = .arabicNumber || d = .europeanNumber

/-- A label from the right begins with a letter, holds no letter from the left, ends in a letter or
digit and its marks, and has digits of one kind. A label from the left begins with a letter, holds
nothing from the right, and ends in a letter or digit and its marks. -/
def runsOneWay (label : List Char) : Bool :=
  let ds := label.map Direction.of
  match ds, ds.reverse.dropWhile (· = .nonspacing) with
  | .right :: _, last :: _ =>
    !ds.contains .left && (last = .right || last.isNumber) &&
      !(ds.contains .arabicNumber && ds.contains .europeanNumber)
  | .left :: _, last :: _ =>
    !ds.any Direction.isFromRight && (last = .left || last = .europeanNumber)
  | [], _ => true
  | _, _ => false

end ApiToolbox.Url.Domain
