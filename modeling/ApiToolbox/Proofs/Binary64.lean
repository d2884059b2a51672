import ApiToolbox.Binary64.Basic
import Mathlib.Algebra.Order.Field.Power
import Mathlib.Algebra.Order.Floor.Semifield
import Mathlib.Data.Nat.Cast.Field
import Mathlib.Data.Rat.Floor
import Mathlib.Tactic.Linarith
import Mathlib.Tactic.Positivity
import Mathlib.Tactic.Ring

/-! The numbers that binary64 numbers are, and rounding to them: what a fraction is rounded to is as near to
it as any finite binary64 number. -/

namespace ApiToolbox.Binary64

/-! ### Values -/

/-- The number without its sign. -/
def magnitude (x : Binary64) : ℚ := x.significand * 2 ^ x.exponent

/-- The factor of a sign. -/
def sign (negative : Bool) : ℚ := if negative then -1 else 1

/-- The number as a rational one. -/
def value (x : Binary64) : ℚ := sign x.negative * x.magnitude

theorem two_zpow_pos (e : Int) : (0 : ℚ) < 2 ^ e := zpow_pos (by norm_num) e

theorem magnitude_nonneg (x : Binary64) : 0 ≤ x.magnitude :=
  mul_nonneg (Nat.cast_nonneg _) (two_zpow_pos _).le

theorem abs_sign_mul (negative : Bool) (q : ℚ) : |sign negative * q| = |q| := by
  cases negative <;> simp [sign]

theorem abs_value (x : Binary64) : |x.value| = x.magnitude := by
  rw [value, abs_sign_mul, abs_of_nonneg x.magnitude_nonneg]

theorem ratio_pos (x : Binary64) : 0 < x.ratio.2 := by
  rw [ratio]
  split
  · exact Nat.one_pos
  · exact Nat.pow_pos Nat.two_pos

theorem ratio_eq (x : Binary64) : (x.ratio.1 : ℚ) / x.ratio.2 = x.magnitude := by
  rw [ratio, magnitude]
  split
  · next h =>
    obtain ⟨k, hk⟩ := Int.eq_ofNat_of_zero_le h
    simp [hk]
  · next h =>
    obtain ⟨k, hk⟩ := Int.eq_ofNat_of_zero_le (a := -x.exponent) (by omega)
    have hexp : x.exponent = -(k : Int) := by omega
    simp [hexp, div_eq_mul_inv]

/-- A number is read as an integer when it is one. -/
theorem toInt?_eq_some_iff {x : Binary64} {n : Int} : x.toInt? = some n ↔ x.value = n := by
  have hunfold : x.toInt? = if x.ratio.1 % x.ratio.2 = 0 then
      some (if x.negative then -((x.ratio.1 / x.ratio.2 : Nat) : Int)
        else ((x.ratio.1 / x.ratio.2 : Nat) : Int)) else none := rfl
  have hsigned (k : Nat) : ((if x.negative then -(k : Int) else (k : Int) : Int) : ℚ) =
      sign x.negative * k := by
    cases x.negative <;> simp [sign]
  have hden : (x.ratio.2 : ℚ) ≠ 0 := by exact_mod_cast x.ratio_pos.ne'
  rw [hunfold]
  constructor
  · intro h
    split at h
    · next hmod =>
      rw [← Option.some.inj h, hsigned, Nat.cast_div (Nat.dvd_of_mod_eq_zero hmod) hden, ratio_eq, value]
    · cases h
  · intro h
    have hmagnitude : x.magnitude = n.natAbs := by
      rw [← abs_value, h, Nat.cast_natAbs, Int.cast_abs]
    have hnum : x.ratio.1 = n.natAbs * x.ratio.2 := by
      have hquotient : (x.ratio.1 : ℚ) / x.ratio.2 = n.natAbs := x.ratio_eq.trans hmagnitude
      exact_mod_cast (div_eq_iff hden).mp hquotient
    rw [hnum, Nat.mul_mod_left, if_pos rfl, Nat.mul_div_cancel _ x.ratio_pos]
    congr 1
    apply Int.cast_injective (α := ℚ)
    rw [hsigned, ← hmagnitude, ← h, value]

/-! ### Rounding -/

/-- A number that binary64 has. -/
def IsFinite (x : Binary64) : Prop :=
  x.significand < 2 ^ 53 ∧ leastExponent ≤ x.exponent ∧ x.exponent ≤ greatestExponent

/-- A finite number to which no other is nearer than `x`. -/
def IsNearest (x : Binary64) (q : ℚ) : Prop :=
  x.IsFinite ∧ ∀ y : Binary64, y.IsFinite → |x.value - q| ≤ |y.value - q|

/-- What a quotient is above its integer part. -/
def excess (num den : Nat) : ℚ := (num % den : Nat) / den

theorem excess_nonneg (num den : Nat) : 0 ≤ excess num den := by
  rw [excess]
  positivity

theorem excess_lt_one (num : Nat) {den : Nat} (hden : 0 < den) : excess num den < 1 := by
  rw [excess, div_lt_one (by exact_mod_cast hden)]
  exact_mod_cast Nat.mod_lt num hden

theorem div_eq_add_excess (num : Nat) {den : Nat} (hden : 0 < den) :
    (num : ℚ) / den = (num / den : Nat) + excess num den := by
  have hne : (den : ℚ) ≠ 0 := by exact_mod_cast hden.ne'
  rw [excess, div_eq_iff hne, add_mul, div_mul_cancel₀ _ hne, mul_comm]
  exact_mod_cast (Nat.div_add_mod num den).symm

theorem two_mul_mod_lt_iff (num : Nat) {den : Nat} (hden : 0 < den) :
    2 * (num % den) < den ↔ 2 * excess num den < 1 := by
  rw [excess, ← mul_div_assoc, div_lt_one (by exact_mod_cast hden)]
  exact_mod_cast Iff.rfl

theorem lt_two_mul_mod_iff (num : Nat) {den : Nat} (hden : 0 < den) :
    den < 2 * (num % den) ↔ 1 < 2 * excess num den := by
  rw [excess, ← mul_div_assoc, one_lt_div (by exact_mod_cast hden)]
  exact_mod_cast Iff.rfl

/-- The rounded quotient is as near as the nearer of the two integers around the quotient. -/
theorem roundDiv_distance (num : Nat) {den : Nat} (hden : 0 < den) :
    |(roundDiv num den : ℚ) - num / den| ≤ min (excess num den) (1 - excess num den) := by
  have hexcess := excess_nonneg num den
  have hlt := excess_lt_one num hden
  rw [div_eq_add_excess num hden, le_min_iff, abs_le, abs_le]
  simp only [roundDiv]
  split_ifs with hlow hhigh
  · rw [two_mul_mod_lt_iff num hden] at hlow
    refine ⟨⟨?_, ?_⟩, ?_, ?_⟩ <;> linarith
  · rw [lt_two_mul_mod_iff num hden] at hhigh
    push_cast
    refine ⟨⟨?_, ?_⟩, ?_, ?_⟩ <;> linarith
  · -- at the middle between them, whichever is even
    rw [two_mul_mod_lt_iff num hden] at hlow
    rw [lt_two_mul_mod_iff num hden] at hhigh
    push_cast
    rcases Nat.mod_two_eq_zero_or_one (num / den) with heven | hodd
    · rw [heven, Nat.cast_zero]
      refine ⟨⟨?_, ?_⟩, ?_, ?_⟩ <;> linarith
    · rw [hodd, Nat.cast_one]
      refine ⟨⟨?_, ?_⟩, ?_, ?_⟩ <;> linarith

/-- No integer is nearer to a quotient than both of those around it. -/
theorem min_excess_le (num : Nat) {den : Nat} (hden : 0 < den) (k : Nat) :
    min (excess num den) (1 - excess num den) ≤ |(k : ℚ) - num / den| := by
  rw [div_eq_add_excess num hden]
  rcases Nat.lt_or_ge (num / den) k with h | h
  · have hk : ((num / den : Nat) : ℚ) + 1 ≤ k := by exact_mod_cast h
    exact (min_le_right _ _).trans (le_abs.mpr (.inl (by linarith)))
  · have hk : (k : ℚ) ≤ (num / den : Nat) := by exact_mod_cast h
    exact (min_le_left _ _).trans (le_abs.mpr (.inr (by linarith)))

/-- The rounded quotient is an integer nearest to the quotient. -/
theorem roundDiv_nearest (num : Nat) {den : Nat} (hden : 0 < den) (k : Nat) :
    |(roundDiv num den : ℚ) - num / den| ≤ |(k : ℚ) - num / den| :=
  (roundDiv_distance num hden).trans (min_excess_le num hden k)

theorem scaled_pos (num : Nat) {den : Nat} (hden : 0 < den) (e : Int) : 0 < (scaled num den e).2 := by
  rw [scaled]
  split
  · exact Nat.mul_pos hden (Nat.pow_pos Nat.two_pos)
  · exact hden

theorem scaled_eq (num den : Nat) (e : Int) :
    ((scaled num den e).1 : ℚ) / (scaled num den e).2 = num / den / 2 ^ e := by
  rw [scaled]
  split
  · next h =>
    obtain ⟨k, rfl⟩ := Int.eq_ofNat_of_zero_le h
    simp [div_div]
  · next h =>
    obtain ⟨k, hk⟩ := Int.eq_ofNat_of_zero_le (a := -e) (by omega)
    have he : e = -(k : Int) := by omega
    subst he
    simp [mul_div_right_comm]

/-- A quotient lies around the power of two that the lengths of its sides give. -/
theorem quotient_bounds {num den : Nat} (hnum : num ≠ 0) (hden : 0 < den) :
    (2 : ℚ) ^ ((num.log2 : Int) - den.log2 - 1) ≤ num / den ∧
      (num / den : ℚ) < 2 ^ ((num.log2 : Int) - den.log2 + 1) := by
  have hdenQ : (0 : ℚ) < den := by exact_mod_cast hden
  have hnum_low : (2 : ℚ) ^ (num.log2 : Int) ≤ num := by exact_mod_cast Nat.log2_self_le hnum
  have hnum_high : (num : ℚ) < 2 ^ ((num.log2 : Int) + 1) := by exact_mod_cast Nat.lt_log2_self
  have hden_low : (2 : ℚ) ^ (den.log2 : Int) ≤ den := by exact_mod_cast Nat.log2_self_le hden.ne'
  have hden_high : (den : ℚ) < 2 ^ ((den.log2 : Int) + 1) := by exact_mod_cast Nat.lt_log2_self
  constructor
  · rw [le_div_iff₀ hdenQ]
    calc (2 : ℚ) ^ ((num.log2 : Int) - den.log2 - 1) * den
        ≤ 2 ^ ((num.log2 : Int) - den.log2 - 1) * 2 ^ ((den.log2 : Int) + 1) := by gcongr
      _ = 2 ^ (num.log2 : Int) := by rw [← zpow_add₀ two_ne_zero]; congr 1; ring
      _ ≤ num := hnum_low
  · rw [div_lt_iff₀ hdenQ]
    calc (num : ℚ) < 2 ^ ((num.log2 : Int) + 1) := hnum_high
      _ = 2 ^ ((num.log2 : Int) - den.log2 + 1) * 2 ^ (den.log2 : Int) := by
        rw [← zpow_add₀ two_ne_zero]; congr 1; ring
      _ ≤ 2 ^ ((num.log2 : Int) - den.log2 + 1) * den := by gcongr

theorem div_scaled_lt_iff (num den : Nat) (e : Int) :
    (scaled num den e).1 / (scaled num den e).2 < 2 ^ 53 ↔ (num / den : ℚ) < 2 ^ 53 * 2 ^ e := by
  rw [← Nat.floor_div_eq_div (K := ℚ), Nat.floor_lt (by positivity), scaled_eq,
    div_lt_iff₀ (two_zpow_pos e), Nat.cast_pow, Nat.cast_ofNat]

/-- The exponent of a quotient gives it a significand of at most 53 bits, and of exactly that many unless
it is the least one. -/
theorem exponentFor_bounds {num den : Nat} (hnum : num ≠ 0) (hden : 0 < den) :
    leastExponent ≤ exponentFor num den ∧
      (num / den : ℚ) < 2 ^ 53 * 2 ^ exponentFor num den ∧
      (exponentFor num den = leastExponent ∨ (2 : ℚ) ^ 52 * 2 ^ exponentFor num den ≤ num / den) := by
  obtain ⟨hlow, hhigh⟩ := quotient_bounds hnum hden
  generalize hlength : (num.log2 : Int) - den.log2 = length at hlow hhigh
  have hpow (a : Nat) (b : Int) : (2 : ℚ) ^ a * 2 ^ b = 2 ^ (a + b) := by
    rw [← zpow_natCast, ← zpow_add₀ two_ne_zero]
  have hunfold : exponentFor num den =
      if (scaled num den (max (length - 53) leastExponent)).1 /
          (scaled num den (max (length - 53) leastExponent)).2 < Nat.pow 2 53
        then max (length - 53) leastExponent else max (length - 53) leastExponent + 1 := by
    rw [← hlength]
    rfl
  rw [hunfold]
  split
  · next h =>
    refine ⟨le_max_right _ _, (div_scaled_lt_iff _ _ _).mp h, ?_⟩
    rcases le_total (length - 53) leastExponent with hle | hle
    · exact .inl (max_eq_right hle)
    · refine .inr ?_
      rw [max_eq_left hle, hpow]
      exact (zpow_le_zpow_right₀ one_le_two (by norm_num; omega)).trans hlow
  · next h =>
    rw [Nat.pow_eq, div_scaled_lt_iff, not_lt] at h
    refine ⟨(le_max_right _ _).trans (Int.le_add_one le_rfl), ?_, .inr ?_⟩
    · rw [hpow]
      refine hhigh.trans_le (zpow_le_zpow_right₀ one_le_two ?_)
      have := le_max_left (length - 53) leastExponent
      norm_num
      omega
    · refine le_trans (le_of_eq ?_) h
      rw [hpow, hpow]
      congr 1
      norm_num
      ring

theorem isNearest_of_magnitude {x : Binary64} {q : ℚ} (hfinite : x.IsFinite) (hq : 0 ≤ q)
    (h : ∀ y : Binary64, y.IsFinite → |x.magnitude - q| ≤ |y.magnitude - q|) :
    x.IsNearest (sign x.negative * q) := by
  refine ⟨hfinite, fun y hy => ?_⟩
  calc |x.value - sign x.negative * q| = |x.magnitude - q| := by
        rw [value, ← mul_sub, abs_sign_mul]
    _ ≤ |y.magnitude - q| := h y hy
    _ = |(|y.value| - |sign x.negative * q|)| := by rw [abs_value, abs_sign_mul, abs_of_nonneg hq]
    _ ≤ |y.value - sign x.negative * q| := abs_abs_sub_abs_le _ _

theorem exists_multiple {y : Binary64} {e : Int} (he : e ≤ y.exponent) :
    ∃ k : Nat, y.magnitude = k * 2 ^ e := by
  obtain ⟨k, hk⟩ := Int.eq_ofNat_of_zero_le (sub_nonneg.mpr he)
  have hexp : y.exponent = k + e := by omega
  refine ⟨y.significand * 2 ^ k, ?_⟩
  rw [magnitude, hexp, zpow_add₀ two_ne_zero]
  push_cast
  rw [zpow_natCast, mul_assoc]

/-- Numbers of lower exponents lie below the least significand of 53 bits. -/
theorem IsFinite.magnitude_le {y : Binary64} (hy : y.IsFinite) {e : Int} (he : y.exponent < e) :
    y.magnitude ≤ 2 ^ 52 * 2 ^ e := by
  have hsig : (y.significand : ℚ) ≤ 2 ^ 53 := by exact_mod_cast hy.1.le
  have hexp : (2 : ℚ) ^ y.exponent ≤ 2 ^ (e - 1) := zpow_le_zpow_right₀ one_le_two (by omega)
  calc y.magnitude ≤ 2 ^ 53 * 2 ^ (e - 1) :=
        mul_le_mul hsig hexp (two_zpow_pos _).le (by positivity)
    _ = 2 ^ 52 * 2 ^ e := by rw [zpow_sub_one₀ two_ne_zero]; ring

/-- Among the multiples of a power of two, rounding the scaled fraction gives a nearest one. -/
theorem roundDiv_scaled_nearest (num : Nat) {den : Nat} (hden : 0 < den) (e : Int) (k : Nat) :
    |(roundDiv (scaled num den e).1 (scaled num den e).2 : ℚ) * 2 ^ e - num / den| ≤
      |(k : ℚ) * 2 ^ e - num / den| := by
  have hpow := two_zpow_pos e
  have hscale (a : ℚ) : |a * 2 ^ e - num / den| = |a - num / den / 2 ^ e| * 2 ^ e := by
    rw [← abs_of_pos hpow, ← abs_mul, abs_of_pos hpow, sub_mul, div_mul_cancel₀ _ hpow.ne']
  rw [hscale, hscale, ← scaled_eq]
  exact mul_le_mul_of_nonneg_right (roundDiv_nearest _ (scaled_pos num hden e) k) hpow.le

/-- At the exponent of a quotient, rounding its significand comes as near as any finite number. -/
theorem rounded_nearest {num den : Nat} (hnum : num ≠ 0) (hden : 0 < den) {y : Binary64}
    (hy : y.IsFinite) :
    let e := exponentFor num den
    |(roundDiv (scaled num den e).1 (scaled num den e).2 : ℚ) * 2 ^ e - num / den| ≤
      |y.magnitude - num / den| := by
  intro e
  rcases le_or_gt e y.exponent with he | he
  · obtain ⟨k, hk⟩ := exists_multiple he
    rw [hk]
    exact roundDiv_scaled_nearest num hden e k
  · -- the least significand of 53 bits lies between `y` and the quotient
    obtain ⟨-, -, hnormal⟩ := exponentFor_bounds hnum hden
    have hlow : (2 : ℚ) ^ 52 * 2 ^ e ≤ num / den :=
      hnormal.resolve_left (hy.2.1.trans_lt he).ne'
    have hbelow := hy.magnitude_le he
    calc _ ≤ |((2 ^ 52 : Nat) : ℚ) * 2 ^ e - num / den| :=
          roundDiv_scaled_nearest num hden e (2 ^ 52)
      _ = num / den - 2 ^ 52 * 2 ^ e := by
        rw [Nat.cast_pow, Nat.cast_ofNat, abs_sub_comm, abs_of_nonneg (sub_nonneg.mpr hlow)]
      _ ≤ num / den - y.magnitude := by linarith
      _ ≤ |y.magnitude - num / den| := by
        rw [abs_sub_comm]
        exact le_abs_self _

theorem roundDiv_le (num den : Nat) : roundDiv num den ≤ num / den + 1 := by
  simp only [roundDiv]
  split_ifs <;> omega

/-- A significand that is rounded up to `2 ^ 53` is carried into the exponent. -/
def carried (m : Nat) (e : Int) : Nat × Int := if m = 2 ^ 53 then (2 ^ 52, e + 1) else (m, e)

theorem carried_value (m : Nat) (e : Int) :
    ((carried m e).1 : ℚ) * 2 ^ (carried m e).2 = m * 2 ^ e := by
  rw [carried]
  split
  · next hm =>
    rw [hm, zpow_add_one₀ two_ne_zero]
    push_cast
    ring
  · rfl

theorem carried_bounds {m : Nat} (hm : m ≤ 2 ^ 53) (e : Int) :
    (carried m e).1 < 2 ^ 53 ∧ e ≤ (carried m e).2 ∧ (carried m e).2 ≤ e + 1 := by
  rw [carried]
  split
  · exact ⟨by norm_num, Int.le_add_one le_rfl, le_rfl⟩
  · next hne => exact ⟨lt_of_le_of_ne hm hne, le_rfl, Int.le_add_one le_rfl⟩

/-- The significand and the exponent of a rounded fraction. -/
def rounded (num den : Nat) : Nat × Int :=
  let e := exponentFor num den
  carried (roundDiv (scaled num den e).1 (scaled num den e).2) e

theorem nearest?_eq {num : Nat} (hnum : num ≠ 0) (negative : Bool) (den : Nat) :
    nearest? negative num den = if greatestExponent < (rounded num den).2 then none
      else some ⟨negative, (rounded num den).1, (rounded num den).2⟩ := by
  rw [nearest?, if_neg hnum]
  rfl

theorem rounded_bounds {num den : Nat} (hnum : num ≠ 0) (hden : 0 < den) :
    (rounded num den).1 < 2 ^ 53 ∧ exponentFor num den ≤ (rounded num den).2 ∧
      (rounded num den).2 ≤ exponentFor num den + 1 := by
  obtain ⟨-, hbound, -⟩ := exponentFor_bounds hnum hden
  have hdiv := (div_scaled_lt_iff num den (exponentFor num den)).mpr hbound
  exact carried_bounds ((roundDiv_le _ _).trans hdiv) _

/-- A fraction is rounded to a nearest number. -/
theorem isNearest_of_nearest? {negative : Bool} {num den : Nat} {x : Binary64} (hden : 0 < den)
    (h : nearest? negative num den = some x) : x.IsNearest (sign negative * (num / den)) := by
  have hq : (0 : ℚ) ≤ num / den := by positivity
  by_cases hnum : num = 0
  · rw [nearest?, if_pos hnum] at h
    obtain rfl := Option.some.inj h
    have hfinite : (zero negative).IsFinite :=
      ⟨Nat.two_pow_pos 53, le_rfl, (by decide : leastExponent ≤ greatestExponent)⟩
    have hexact : (zero negative).magnitude - num / den = 0 := by simp [magnitude, zero, hnum]
    refine isNearest_of_magnitude (x := zero negative) hfinite hq fun y _ => ?_
    rw [hexact, abs_zero]
    exact abs_nonneg _
  · rw [nearest?_eq hnum] at h
    split at h
    · cases h
    · next hgreatest =>
      obtain rfl := Option.some.inj h
      obtain ⟨hsignificand, hexponent, -⟩ := rounded_bounds hnum hden
      have hleast := (exponentFor_bounds hnum hden).1.trans hexponent
      refine isNearest_of_magnitude (x := ⟨negative, _, _⟩)
        ⟨hsignificand, hleast, not_lt.mp hgreatest⟩ hq fun y hy => ?_
      rw [magnitude, rounded, carried_value]
      exact rounded_nearest hnum hden hy

/-- Fractions far below the greatest number have a nearest one. -/
theorem exists_nearest? (negative : Bool) (num : Nat) {den : Nat} (hden : 0 < den)
    (h : (num.log2 : Int) - den.log2 ≤ 1022) : ∃ x, nearest? negative num den = some x := by
  by_cases hnum : num = 0
  · exact ⟨zero negative, by rw [nearest?, if_pos hnum]⟩
  · obtain ⟨-, -, hexponent⟩ := rounded_bounds hnum hden
    have hle : exponentFor num den ≤ max ((num.log2 : Int) - den.log2 - 53) leastExponent + 1 := by
      simp only [exponentFor]
      split <;> omega
    have hgreatest : ¬ greatestExponent < (rounded num den).2 := by
      have hleast : leastExponent = -1074 := rfl
      have hgreatest : greatestExponent = 971 := rfl
      omega
    exact ⟨_, by rw [nearest?_eq hnum, if_neg hgreatest]⟩

end ApiToolbox.Binary64
