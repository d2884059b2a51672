import ApiToolbox.Url.Punycode
import Mathlib.Tactic.SplitIfs

/-! The signs of a Punycode text: those of the label that are ASCII, digits of base 36, and the hyphen
between the two. -/

namespace ApiToolbox.Url.Punycode

/-- A letter or digit that stands for a digit value. -/
def IsDigit (c : Char) : Prop := ∃ d < 36, c = digitChar d

theorem IsDigit.forall {p : Char → Bool} (h : ∀ d < 36, p (digitChar d) = true) {c : Char} :
    IsDigit c → p c = true := by
  rintro ⟨d, hd, rfl⟩
  exact h d hd

theorem isDigit_of_mem_digits {bias k n : Nat} {c : Char} (h : c ∈ digits bias k n) : IsDigit c := by
  induction k, n using digits.induct bias with
  | case1 k n t hlt =>
    have ht : t ≤ 26 := threshold_le k bias
    rw [digits, if_pos hlt] at h
    exact ⟨n, by omega, List.mem_singleton.mp h⟩
  | case2 k n t hge ih =>
    have ht : t ≤ 26 := threshold_le k bias
    have hmod : (n - t) % (36 - t) < 36 - t := Nat.mod_lt _ (by omega)
    rw [digits, if_neg hge] at h
    rcases List.mem_cons.mp h with h | h
    · exact ⟨t + (n - t) % (36 - t), by omega, h⟩
    · exact ih h

section Writer

variable {P : Char → Prop}

theorem Writer.forall_mem_pass (hP : ∀ c, IsDigit c → P c) {w : Writer} (hw : ∀ c ∈ w.text, P c)
    (basic n : Nat) (c : Char) : ∀ d ∈ (w.pass basic n c).text, P d := by
  intro d hd
  unfold Writer.pass at hd
  split_ifs at hd
  · exact hw d hd
  · rcases List.mem_append.mp hd with hd | hd
    · exact hw d hd
    · exact hP d (isDigit_of_mem_digits hd)
  · exact hw d hd

theorem Writer.forall_mem_foldl_pass (hP : ∀ c, IsDigit c → P c) (basic n : Nat) (cs : List Char)
    {w : Writer} (hw : ∀ c ∈ w.text, P c) :
    ∀ d ∈ (cs.foldl (Writer.pass basic n) w).text, P d := by
  induction cs generalizing w with
  | nil => exact hw
  | cons c r ih => exact ih (Writer.forall_mem_pass hP hw basic n c)

theorem Writer.forall_mem_place (hP : ∀ c, IsDigit c → P c) (label : List Char) (basic : Nat)
    (points : List Nat) (n : Nat) {w : Writer} (hw : ∀ c ∈ w.text, P c) :
    ∀ d ∈ (Writer.place label basic points n w).text, P d := by
  induction points generalizing n w with
  | nil => exact hw
  | cons m rest ih =>
    have h := Writer.forall_mem_foldl_pass hP basic m label
      (w := { w with delta := w.delta + (m - n) * (w.placed + 1) }) hw
    exact ih (m + 1) h

end Writer

theorem mem_encode {label : List Char} {c : Char} (h : c ∈ encode label) :
    (c ∈ label ∧ c.toNat < 128) ∨ c = '-' ∨ IsDigit c := by
  refine Writer.forall_mem_place (P := fun c => (c ∈ label ∧ c.toNat < 128) ∨ c = '-' ∨ IsDigit c)
    (fun c hc => .inr (.inr hc)) label _ _ 128 ?_ c h
  intro d hd
  dsimp only at hd
  split_ifs at hd
  · cases hd
  · rcases List.mem_append.mp hd with hd | hd
    · exact .inl (by simpa using hd)
    · exact .inr (.inl (List.mem_singleton.mp hd))

end ApiToolbox.Url.Punycode
