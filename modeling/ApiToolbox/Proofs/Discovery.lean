import ApiToolbox.Discovery
import Mathlib.Data.List.Infix

/-! Patterns and the texts that fit them. A search goes back to the last star only. That is enough: up to
the next star a pattern fits byte by byte, so an earlier star gains nothing by a longer run that the
later one could not take in. -/

namespace ApiToolbox.Glob

/-- The bytes fit the pattern: a star stands for any run, the mark for any one byte, and every other byte for
itself. -/
inductive Matches : List UInt8 → List UInt8 → Prop where
  | nil : Matches [] []
  | star {pattern text : List UInt8} (run : List UInt8) (h : Matches pattern text) :
      Matches (star :: pattern) (run ++ text)
  | one {pattern text : List UInt8} (c : UInt8) (h : Matches pattern text) :
      Matches (one :: pattern) (c :: text)
  | literal {pattern text : List UInt8} {c : UInt8} (hstar : c ≠ star) (hone : c ≠ one)
      (h : Matches pattern text) : Matches (c :: pattern) (c :: text)

section Matches

variable {p c : UInt8} {pattern front text later : List UInt8}

theorem not_matches_nil_cons : ¬ Matches [] (c :: text) := by
  intro h
  cases h

theorem matches_star_iff_exists :
    Matches (star :: pattern) text ↔ ∃ later, later <:+ text ∧ Matches pattern later := by
  constructor
  · intro h
    cases h with
    | star run h => exact ⟨_, List.suffix_append run _, h⟩
    | literal hstar _ _ => exact absurd rfl hstar
  · rintro ⟨later, ⟨run, rfl⟩, h⟩
    exact .star run h

/-- A star stands for nothing, or for a first byte and what it may stand for behind it. -/
theorem matches_star_iff :
    Matches (star :: pattern) text ↔ Matches pattern text ∨ Matches (star :: pattern) text.tail := by
  simp only [matches_star_iff_exists]
  constructor
  · rintro ⟨later, hlater, h⟩
    cases text with
    | nil => exact .inl (List.suffix_nil.mp hlater ▸ h)
    | cons c rest =>
      rcases List.suffix_cons_iff.mp hlater with rfl | hlater
      · exact .inl h
      · exact .inr ⟨later, hlater, h⟩
  · rintro (h | ⟨later, hlater, h⟩)
    · exact ⟨text, List.suffix_refl text, h⟩
    · exact ⟨later, hlater.trans (List.tail_suffix text), h⟩

theorem matches_cons_iff (hp : p ≠ star) : Matches (p :: pattern) text ↔
    ∃ c rest, text = c :: rest ∧ (p = one ∨ p = c) ∧ Matches pattern rest := by
  constructor
  · intro h
    cases h with
    | star _ _ => exact absurd rfl hp
    | one c h => exact ⟨c, _, rfl, .inl rfl, h⟩
    | literal _ _ h => exact ⟨p, _, rfl, .inr rfl, h⟩
  · rintro ⟨c, rest, rfl, rfl | rfl, h⟩
    · exact .one c h
    · by_cases hone : p = one
      · exact hone ▸ .one p h
      · exact .literal hp hone h

/-- Nothing at all fits a pattern of stars only. -/
theorem matches_nil_iff : Matches pattern [] ↔ ∀ p ∈ pattern, p = star := by
  induction pattern with
  | nil => simpa using Matches.nil
  | cons p pattern ih =>
    rw [List.forall_mem_cons, ← ih]
    by_cases hp : p = star
    · subst hp
      simp [matches_star_iff_exists]
    · simp [matches_cons_iff hp, hp]

theorem Matches.of_suffix (h : Matches (Glob.star :: pattern) later) (hlater : later <:+ text) :
    Matches (Glob.star :: pattern) text := by
  obtain ⟨rest, hrest, h⟩ := matches_star_iff_exists.mp h
  exact matches_star_iff_exists.mpr ⟨rest, hrest.trans hlater, h⟩

/-- Without a star a pattern takes as many bytes as it has. -/
theorem Matches.drop (h : Matches (front ++ pattern) text) (hfront : Glob.star ∉ front) :
    front.length ≤ text.length ∧ Matches pattern (text.drop front.length) := by
  induction front generalizing text with
  | nil => exact ⟨Nat.zero_le _, h⟩
  | cons p front ih =>
    rw [List.mem_cons, not_or] at hfront
    obtain ⟨c, rest, rfl, -, h⟩ := (matches_cons_iff (Ne.symm hfront.1)).mp h
    obtain ⟨hlength, hmatches⟩ := ih h hfront.2
    exact ⟨by simpa using hlength, hmatches⟩

end Matches

namespace Search

variable {s : Search}

/-- What a search looks for: the rest of the text fits, or it will after the last star has taken more. -/
def Fits (s : Search) : Prop :=
  Matches s.pattern s.text ∨ ∃ r ∈ s.last, Matches (star :: r.1) r.2.tail

/-- The search has come from the last star to where it is by one byte of the text for each byte of the
pattern. -/
def Aligned (s : Search) : Prop :=
  ∀ r ∈ s.last, ∃ front taken, r.1 = front ++ s.pattern ∧ r.2 = taken ++ s.text ∧
    star ∉ front ∧ taken.length = front.length

/-- If it helps to go back to the last star, the rest of the pattern fits somewhere later in the text. -/
theorem Aligned.exists_suffix (h : s.Aligned) {r : List UInt8 × List UInt8} (hr : r ∈ s.last)
    (hmatches : Matches (star :: r.1) r.2.tail) :
    ∃ later, later <:+ s.text ∧ Matches s.pattern later := by
  obtain ⟨front, taken, hpattern, htext, hfront, hlength⟩ := h r hr
  obtain ⟨rest, htail, hmatches⟩ := matches_star_iff_exists.mp hmatches
  have hrest : rest <:+ r.2 := htail.trans (List.tail_suffix r.2)
  rw [hpattern] at hmatches
  obtain ⟨-, hmatches⟩ := hmatches.drop hfront
  refine ⟨_, ?_, hmatches⟩
  have hwhole : rest.drop front.length <:+ taken ++ s.text :=
    htext ▸ (List.drop_suffix _ _).trans hrest
  refine List.suffix_of_suffix_length_le hwhole (List.suffix_append taken s.text) ?_
  have hle := hrest.length_le
  rw [htext, List.length_append] at hle
  rw [List.length_drop]
  omega

/-- A result of a step is right: the answer says whether the search finds what it looks for, or the search
that goes on looks for the same. -/
def Sound (s : Search) : Bool ⊕ Search → Prop
  | .inl found => found = true ↔ s.Fits
  | .inr s' => s'.Aligned ∧ (s'.Fits ↔ s.Fits)

theorem sound_retry (hno : ¬ Matches s.pattern s.text) : s.Sound s.retry := by
  obtain ⟨pattern, text, last, hlast⟩ := s
  cases last with
  | none => simpa [Sound, retry, Fits] using hno
  | some r =>
    refine ⟨?_, ?_⟩
    · rintro r' ⟨⟩
      exact ⟨[], [], rfl, rfl, List.not_mem_nil, rfl⟩
    · have hfits : Fits ⟨pattern, text, some r, hlast⟩ ↔ Matches (star :: r.1) r.2.tail := by
        simpa [Fits] using fun h => absurd h hno
      rw [hfits, matches_star_iff]
      simp [Fits]

theorem sound_next (h : s.Aligned) : s.Sound s.next := by
  obtain ⟨pattern, text, last, hlast⟩ := s
  match pattern, text with
  | pattern, [] =>
    have hpattern : pattern.all (· = star) = true ↔ Matches pattern [] := by
      simp [matches_nil_iff]
    refine hpattern.trans ⟨.inl, ?_⟩
    rintro (hmatches | ⟨r, hr, hmatches⟩)
    · exact hmatches
    · obtain ⟨later, hlater, hmatches⟩ := h.exists_suffix hr hmatches
      rwa [List.suffix_nil.mp hlater] at hmatches
  | [], c :: cs => exact sound_retry not_matches_nil_cons
  | p :: ps, c :: cs =>
    rw [next]
    split
    next hstar =>
      subst hstar
      refine ⟨?_, ?_⟩
      · rintro r ⟨⟩
        exact ⟨[], [], rfl, rfl, List.not_mem_nil, rfl⟩
      · -- The star that has been met takes in whatever the one before it could.
        have hforget : Fits ⟨star :: ps, c :: cs, last, hlast⟩ ↔ Matches (star :: ps) (c :: cs) := by
          refine ⟨?_, .inl⟩
          rintro (hmatches | ⟨r, hr, hmatches⟩)
          · exact hmatches
          · obtain ⟨later, hlater, hmatches⟩ := h.exists_suffix hr hmatches
            exact hmatches.of_suffix hlater
        rw [hforget, matches_star_iff]
        simp [Fits]
    next hstar =>
    split
    next hbyte =>
      have hbyte : p = one ∨ p = c := by simpa using hbyte
      refine ⟨?_, ?_⟩
      · intro r hr
        obtain ⟨front, taken, hpattern, htext, hfront, hlength⟩ := h r hr
        refine ⟨front ++ [p], taken ++ [c], by simp [hpattern], by simp [htext], ?_, by simp [hlength]⟩
        simpa [hfront] using Ne.symm hstar
      · simp [Fits, matches_cons_iff hstar, hbyte]
    next hbyte =>
      have hbyte : ¬ (p = one ∨ p = c) := by simpa using hbyte
      exact sound_retry (by simp [matches_cons_iff hstar, hbyte])

/-- There is no endless search, from wherever it is begun. -/
theorem wellFounded_next : WellFounded fun s' s : Search => s.next = .inr s' :=
  Subrelation.wf next_lt (InvImage.wf (fun s : Search => (s.remaining, s.pattern.length))
    (Prod.lex Nat.lt_wfRel Nat.lt_wfRel).wf)

theorem run_iff (h : s.Aligned) : s.run = true ↔ s.Fits := by
  fun_induction run s with
  | case1 s found hnext =>
    have hsound := sound_next h
    rwa [hnext] at hsound
  | case2 s s' hnext ih =>
    have hsound := sound_next h
    rw [hnext] at hsound
    exact (ih hsound.1).trans hsound.2

end Search

/-- The search ends, and says whether the bytes of the text fit those of the pattern. -/
theorem fits_iff_matches : (WellFounded fun s' s : Search => s.next = .inr s') ∧
    ∀ pattern text : String, fits pattern text = true ↔
      Matches (Text.Utf8.encode pattern.toList) (Text.Utf8.encode text.toList) := by
  refine ⟨Search.wellFounded_next, fun pattern text => ?_⟩
  rw [fits, Search.run_iff fun r hr => by cases hr]
  simp [Search.Fits]

/-- The star stands for `users` at first, and then for as much as is needed. -/
example : fits "GET /*/posts/?" "GET /users/posts/7/posts/8" = true := by cbv

end ApiToolbox.Glob
