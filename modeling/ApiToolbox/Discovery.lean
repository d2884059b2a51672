import ApiToolbox.Operation
import ApiToolbox.Text.Utf8

/-!
Which operations are offered: all, none, or those whose `METHOD path` fits one of the patterns to
include and none of those to exclude.
-/

namespace ApiToolbox

namespace Glob

def star : UInt8 := 42

def one : UInt8 := 63

/-- A search in progress: what is left of the pattern and of the text and, once a star has been met, where
to go on if these do not fit. That is the pattern behind the last star and the text behind the run that
the star stands for so far; the text that is left is a part of it. -/
structure Search where
  pattern : List UInt8
  text : List UInt8
  last : Option (List UInt8 × List UInt8)
  length_le : ∀ r ∈ last, text.length ≤ r.2.length

namespace Search

/-- Let the last star stand for one more byte, and go on behind it. -/
def retry (s : Search) : Bool ⊕ Search :=
  match s.last with
  | none => .inl false
  | some (pattern, run) =>
    .inr ⟨pattern, run.tail, some (pattern, run.tail), by rintro r ⟨⟩; exact Nat.le_refl _⟩

/-- One step: the answer, or the search that goes on. A star stands for nothing at first. -/
def next (s : Search) : Bool ⊕ Search :=
  match s with
  | ⟨pattern, [], _, _⟩ => .inl (pattern.all (· = star))
  | ⟨[], _ :: _, _, _⟩ => s.retry
  | ⟨p :: ps, c :: cs, last, h⟩ =>
    if p = star then
      .inr ⟨ps, c :: cs, some (ps, c :: cs), by rintro r ⟨⟩; exact Nat.le_refl _⟩
    else if p = one || p = c then .inr ⟨ps, cs, last, fun r hr => Nat.le_of_lt (h r hr)⟩
    else s.retry

/-- How much of the text the last star does not stand for; without a star, more than is left. -/
def remaining (s : Search) : Nat :=
  match s.last with
  | none => s.text.length + 1
  | some (_, run) => run.length

theorem retry_lt {s s' : Search} (hs : s.text ≠ []) (h : s.retry = .inr s') :
    s'.remaining < s.remaining := by
  obtain ⟨pattern, text, last, hlast⟩ := s
  cases last with
  | none => cases h
  | some r =>
    obtain rfl := Sum.inr.inj h
    have hrun := hlast r rfl
    have htext := List.length_pos_iff.mpr hs
    simp only [remaining, List.length_tail] at *
    omega

/-- With each step the last star stands for more of the text, or less of the pattern is left. -/
theorem next_lt {s s' : Search} (h : s.next = .inr s') :
    Prod.Lex (· < ·) (· < ·) (s'.remaining, s'.pattern.length) (s.remaining, s.pattern.length) := by
  obtain ⟨pattern, _ | ⟨c, cs⟩, last, hlast⟩ := s
  · cases h
  cases pattern with
  | nil => exact .left _ _ (retry_lt (by simp) h)
  | cons p ps =>
    simp only [next] at h
    split at h
    · obtain rfl := Sum.inr.inj h
      cases last with
      | none => exact .left _ _ (Nat.lt_succ_self _)
      | some r =>
        rcases Nat.lt_or_eq_of_le (hlast r rfl) with hlt | heq
        · exact .left _ _ hlt
        · simpa [remaining, heq] using Prod.Lex.right r.2.length (Nat.lt_succ_self ps.length)
    · split at h
      · obtain rfl := Sum.inr.inj h
        cases last with
        | none => exact .left _ _ (Nat.lt_succ_self _)
        | some r => exact .right _ (Nat.lt_succ_self _)
      · exact .left _ _ (retry_lt (by simp) h)

def run (s : Search) : Bool :=
  match _h : s.next with
  | .inl found => found
  | .inr s' => run s'
termination_by (s.remaining, s.pattern.length)
decreasing_by exact next_lt _h

end Search

/-- Whether the whole text fits the whole pattern, byte by byte. -/
def fits (pattern text : String) : Bool :=
  Search.run ⟨Text.Utf8.encode pattern.toList, Text.Utf8.encode text.toList, none, by simp⟩

end Glob

inductive Discovery where
  | all (enabled : Bool)
  | selected (wanted unwanted : List String)
  deriving DecidableEq, Repr, Inhabited

/-- Whether an operation is chosen. An excluded one never is; without patterns to include all others
are. -/
def Discovery.allows (d : Discovery) (method path : String) : Bool :=
  match d with
  | .all enabled => enabled
  | .selected wanted unwanted =>
    let operation := method ++ " " ++ path
    !unwanted.any (Glob.fits · operation) &&
      (wanted.isEmpty || wanted.any (Glob.fits · operation))

end ApiToolbox
