import ApiToolbox.Binary64.Text
import ApiToolbox.Proofs.Binary64
import ApiToolbox.Proofs.Text.Pieces
import Mathlib.Data.List.TakeWhile

/-! Decimal numerals: which integer a text spells, and that it is what is read from the text, as an integer
or as the nearest binary64 number. -/

namespace ApiToolbox.Binary64

/-! ### Spelling -/

/-- Decimal digits, at least one. -/
def IsDigits (cs : List Char) : Prop := cs ≠ [] ∧ ∀ c ∈ cs, c.isDigit = true

/-- The number of a text of digits. -/
def digitsValue (cs : List Char) : Nat := Nat.ofDigitChars 10 cs 0

/-- A text spells an integer in decimal digits, with a sign or without. -/
inductive Spells : List Char → Int → Prop
  | unsigned {ds : List Char} (h : IsDigits ds) : Spells ds (digitsValue ds)
  | plus {ds : List Char} (h : IsDigits ds) : Spells ('+' :: ds) (digitsValue ds)
  | minus {ds : List Char} (h : IsDigits ds) : Spells ('-' :: ds) (-(digitsValue ds : Int))

theorem ne_of_isDigit {c d : Char} (hc : c.isDigit = true) (hd : d.isDigit = false) : c ≠ d := by
  rintro rfl
  rw [hc] at hd
  cases hd

theorem isDigits_toDigits (n : Nat) : IsDigits (Nat.toDigits 10 n) :=
  ⟨Nat.toDigits_ne_nil, fun _ hc => Nat.isDigit_of_mem_toDigits (by decide) (by decide) hc⟩

theorem exists_cons_toDigits (n : Nat) :
    ∃ c r, Nat.toDigits 10 n = c :: r ∧ c.isDigit = true ∧ ∀ d ∈ r, d.isDigit = true := by
  obtain ⟨hne, hdigits⟩ := isDigits_toDigits n
  obtain ⟨c, r, hcr⟩ := List.exists_cons_of_ne_nil hne
  rw [hcr] at hdigits
  exact ⟨c, r, hcr, List.forall_mem_cons.mp hdigits⟩

theorem toList_toString_ofNat (k : Nat) : (toString (Int.ofNat k)).toList = Nat.toDigits 10 k := by
  rw [Int.toString_eq_repr, Int.repr, Nat.repr_eq_ofList_toDigits, String.toList_ofList]

theorem toList_toString_negSucc (k : Nat) :
    (toString (Int.negSucc k)).toList = '-' :: Nat.toDigits 10 (k + 1) := by
  rw [Int.toString_eq_repr, Int.repr, Nat.repr_eq_ofList_toDigits, String.toList_append,
    String.toList_ofList, String.toList_ofList]
  rfl

/-- The numeral of an integer spells it. -/
theorem spells_toString (n : Int) : Spells (toString n).toList n := by
  cases n with
  | ofNat k =>
    have hspells := Spells.unsigned (isDigits_toDigits k)
    rw [digitsValue, Nat.ofDigitChars_ten_toDigits] at hspells
    rw [toList_toString_ofNat]
    exact hspells
  | negSucc k =>
    have hspells := Spells.minus (isDigits_toDigits (k + 1))
    rw [digitsValue, Nat.ofDigitChars_ten_toDigits] at hspells
    rw [toList_toString_negSucc]
    exact hspells

/-- A numeral has no white space. -/
theorem Spells.not_isBlank {cs : List Char} {n : Int} (h : Spells cs n) :
    ∀ c ∈ cs, Text.isBlank c = false := by
  have hdigit {ds : List Char} (h : IsDigits ds) : ∀ c ∈ ds, Text.isBlank c = false := by
    intro c hc
    have hd := h.2 c hc
    have hlt : c.toNat < 128 := by
      have hnine := (Char.isDigit_iff_toNat.mp hd).2
      exact hnine.trans_lt (by decide)
    exact Text.forall_ascii (P := fun c => c.isDigit = true → Text.isBlank c = false) (by decide) hlt hd
  cases h with
  | unsigned h => exact hdigit h
  | plus h => exact List.forall_mem_cons.mpr ⟨by decide, hdigit h⟩
  | minus h => exact List.forall_mem_cons.mpr ⟨by decide, hdigit h⟩

/-! ### Reading -/

theorem digitRun_eq (acc count : Nat) (cs : List Char) : digitRun acc count cs =
    (Nat.ofDigitChars 10 (cs.takeWhile Char.isDigit) acc, count + (cs.takeWhile Char.isDigit).length,
      cs.dropWhile Char.isDigit) := by
  induction cs generalizing acc count with
  | nil => rfl
  | cons c r ih =>
    rw [digitRun]
    split
    · next hc =>
      rw [ih, List.takeWhile_cons_of_pos hc, List.dropWhile_cons_of_pos hc, Nat.ofDigitChars_cons,
        List.length_cons, Nat.mul_comm, Nat.add_right_comm, Nat.add_assoc]
    · next hc =>
      rw [List.takeWhile_cons_of_neg hc, List.dropWhile_cons_of_neg hc]
      rfl

/-- The number of a text, if it is one of digits. -/
def digits? (cs : List Char) : Option Nat :=
  match digitRun 0 0 cs with
  | (n, _ + 1, []) => some n
  | _ => none

theorem digitRun_of_isDigits {cs : List Char} (h : IsDigits cs) :
    ∃ k, digitRun 0 0 cs = (digitsValue cs, k + 1, []) := by
  have htake : cs.takeWhile Char.isDigit = cs := List.takeWhile_eq_self_iff.mpr h.2
  have hdrop : cs.dropWhile Char.isDigit = [] := List.dropWhile_eq_nil_iff.mpr h.2
  obtain ⟨k, hk⟩ := Nat.exists_eq_succ_of_ne_zero (mt List.length_eq_zero_iff.mp h.1)
  exact ⟨k, by rw [digitRun_eq, htake, hdrop, hk, digitsValue, Nat.zero_add]⟩

theorem digits?_eq_some_iff {cs : List Char} {n : Nat} :
    digits? cs = some n ↔ IsDigits cs ∧ n = digitsValue cs := by
  constructor
  · intro h
    rw [digits?, digitRun_eq, Nat.zero_add] at h
    split at h
    · next m k hrun =>
      obtain ⟨rfl, hcount, hdrop⟩ : Nat.ofDigitChars 10 (cs.takeWhile Char.isDigit) 0 = m ∧
          (cs.takeWhile Char.isDigit).length = k + 1 ∧ cs.dropWhile Char.isDigit = [] := by
        simpa only [Prod.mk.injEq] using hrun
      have hall : ∀ c ∈ cs, c.isDigit = true := List.dropWhile_eq_nil_iff.mp hdrop
      rw [List.takeWhile_eq_self_iff.mpr hall] at h hcount
      exact ⟨⟨List.ne_nil_of_length_eq_add_one hcount, hall⟩, (Option.some.inj h).symm⟩
    · cases h
  · rintro ⟨hdigits, rfl⟩
    obtain ⟨k, hrun⟩ := digitRun_of_isDigits hdigits
    rw [digits?, hrun]

theorem map_digits? (f : Nat → Int) (cs : List Char) : (digits? cs).map f =
    match digitRun 0 0 cs with
    | (n, _ + 1, []) => some (f n)
    | _ => none := by
  rw [digits?]
  split <;> rfl

theorem signedDigits?_eq (cs : List Char) : signedDigits? cs =
    match cs with
    | '-' :: r => (digits? r).map fun n : Nat => -(n : Int)
    | '+' :: r => (digits? r).map fun n : Nat => (n : Int)
    | r => (digits? r).map fun n : Nat => (n : Int) := by
  simp only [map_digits?]
  rfl

theorem IsDigits.ne_sign {c : Char} {r : List Char} (h : IsDigits (c :: r)) : c ≠ '-' ∧ c ≠ '+' := by
  have hc := h.2 c List.mem_cons_self
  exact ⟨ne_of_isDigit hc (by decide), ne_of_isDigit hc (by decide)⟩

/-- What is read from a text is the integer that it spells. -/
theorem signedDigits?_eq_some_iff {cs : List Char} {n : Int} :
    signedDigits? cs = some n ↔ Spells cs n := by
  rw [signedDigits?_eq]
  constructor
  · intro h
    split at h
    all_goals
      obtain ⟨k, hk, rfl⟩ := Option.map_eq_some_iff.mp h
      obtain ⟨hdigits, rfl⟩ := digits?_eq_some_iff.mp hk
    · exact .minus hdigits
    · exact .plus hdigits
    · exact .unsigned hdigits
  · intro h
    cases h with
    | minus h => exact Option.map_eq_some_iff.mpr ⟨_, digits?_eq_some_iff.mpr ⟨h, rfl⟩, rfl⟩
    | plus h => exact Option.map_eq_some_iff.mpr ⟨_, digits?_eq_some_iff.mpr ⟨h, rfl⟩, rfl⟩
    | unsigned h =>
      split
      · exact absurd rfl h.ne_sign.1
      · exact absurd rfl h.ne_sign.2
      · exact Option.map_eq_some_iff.mpr ⟨_, digits?_eq_some_iff.mpr ⟨h, rfl⟩, rfl⟩

theorem Spells.unique {cs : List Char} {m n : Int} (hm : Spells cs m) (hn : Spells cs n) : m = n :=
  Option.some.inj ((signedDigits?_eq_some_iff.mpr hm).symm.trans (signedDigits?_eq_some_iff.mpr hn))

/-! ### Numerals as binary64 numbers -/

theorem ofUnsignedNumeral?_of_isDigits {cs : List Char} (h : IsDigits cs) (negative : Bool) :
    ofUnsignedNumeral? negative cs = ofDecimal? negative (digitsValue cs) 0 := by
  obtain ⟨k, hrun⟩ := digitRun_of_isDigits h
  simp [ofUnsignedNumeral?, hrun]

/-- The numeral of a positive integer is read without a sign. -/
theorem ofNumeral?_of_spells {cs : List Char} {n : Int} (h : Spells cs n) (hn : 0 < n) :
    ofNumeral? cs = ofDecimal? false n.toNat 0 := by
  cases h with
  | minus h => omega
  | plus h => rw [ofNumeral?, ofUnsignedNumeral?_of_isDigits h, Int.toNat_natCast]
  | unsigned h =>
    unfold ofNumeral?
    split
    · exact absurd rfl h.ne_sign.1
    · exact absurd rfl h.ne_sign.2
    · rw [ofUnsignedNumeral?_of_isDigits h, Int.toNat_natCast]

/-- The numeral of an integer that a word holds is read as a number nearest to it. -/
theorem exists_isNearest_of_spells {cs : List Char} {n : Int} (h : Spells cs n) (hn : 0 < n)
    (hword : n < 2 ^ 64) : ∃ x, ofNumeral? cs = some x ∧ x.IsNearest n := by
  obtain ⟨k, rfl⟩ := Int.eq_ofNat_of_zero_le hn.le
  have hk : k ≠ 0 := by omega
  have hlog : k.log2 < 64 := (Nat.log2_lt hk).mpr (by exact_mod_cast hword)
  have hone : Nat.log2 1 = 0 := by decide
  obtain ⟨x, hx⟩ := exists_nearest? false k Nat.one_pos (by omega)
  refine ⟨x, ?_, ?_⟩
  · rw [ofNumeral?_of_spells h hn, Int.toNat_natCast, ofDecimal?, if_neg hk, if_neg (by decide),
      if_pos le_rfl, ← hx]
    simp
  · simpa [sign] using isNearest_of_nearest? Nat.one_pos hx

end ApiToolbox.Binary64
