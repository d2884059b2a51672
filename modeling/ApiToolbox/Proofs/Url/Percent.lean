import ApiToolbox.Proofs.Text.Pieces
import ApiToolbox.Proofs.Text.Utf8
import ApiToolbox.Url.Percent

/-! Percent encoding as a code. Encoded text holds only what needs no escape and escapes, and decoding
it gives the bytes of the text. -/

namespace ApiToolbox.Url

open Text

theorem percentEncode_cons_of_keep {keep : Char → Bool} {c : Char} (h : keep c = true)
    (cs : List Char) : percentEncode keep (c :: cs) = c :: percentEncode keep cs := by
  simp [percentEncode, h]

theorem percentEncode_cons_of_not_keep {keep : Char → Bool} {c : Char} (h : keep c = false)
    (cs : List Char) : percentEncode keep (c :: cs) =
      (String.utf8EncodeChar c).flatMap escapeByte ++ percentEncode keep cs := by
  simp [percentEncode, h]

theorem percentEncode_eq_self {keep : Char → Bool} {cs : List Char} (h : ∀ c ∈ cs, keep c = true) :
    percentEncode keep cs = cs := by
  induction cs with
  | nil => rfl
  | cons c r ih =>
    rw [percentEncode_cons_of_keep (h c (by simp)), ih fun d hd => h d (by simp [hd])]

/-! ### Classes of characters -/

theorem lt_of_isPrintable {c : Char} (h : isPrintable c = true) : c.toNat < 128 := by
  simp only [isPrintable, Bool.and_eq_true, decide_eq_true_eq] at h
  omega

theorem lt_of_keepInPath {c : Char} (h : keepInPath c = true) : c.toNat < 128 := by
  simp only [keepInPath, keepInFragment, Bool.and_eq_true] at h
  exact lt_of_isPrintable h.1.1

theorem lt_of_keepInUserinfo {c : Char} (h : keepInUserinfo c = true) : c.toNat < 128 := by
  simp only [keepInUserinfo, Bool.and_eq_true] at h
  exact lt_of_keepInPath h.1

theorem lt_of_isUnreserved {c : Char} (h : isUnreserved c = true) : c.toNat < 128 := by
  simp only [isUnreserved, Bool.or_eq_true, decide_eq_true_eq] at h
  rcases h with (((h | rfl) | rfl) | rfl) | rfl
  · exact toNat_lt_of_isAlphanum h
  all_goals decide

/-! ### What encoded text holds -/

theorem mem_escapeByte {b : UInt8} {c : Char} (h : c ∈ escapeByte b) :
    c = '%' ∨ ∃ n < 16, c = upperHex n := by
  have hb : b.toNat < 256 := b.toNat_lt_size
  simp only [escapeByte, List.mem_cons, List.not_mem_nil, or_false] at h
  rcases h with h | h | h
  · exact .inl h
  · exact .inr ⟨_, by omega, h⟩
  · exact .inr ⟨_, by omega, h⟩

theorem mem_percentEncode {keep : Char → Bool} {cs : List Char} {c : Char}
    (h : c ∈ percentEncode keep cs) :
    (keep c = true ∧ c ∈ cs) ∨ c = '%' ∨ ∃ n < 16, c = upperHex n := by
  obtain ⟨d, hd, hc⟩ := List.mem_flatMap.mp h
  split at hc
  · next hk =>
    obtain rfl := List.mem_singleton.mp hc
    exact .inl ⟨hk, hd⟩
  · obtain ⟨b, -, hb⟩ := List.mem_flatMap.mp hc
    exact .inr (mem_escapeByte hb)

/-- The signs of an escape satisfy a predicate. -/
def HoldsOfEscapes (p : Char → Bool) : Prop := p '%' = true ∧ ∀ n < 16, p (upperHex n) = true

instance (p : Char → Bool) : Decidable (HoldsOfEscapes p) :=
  inferInstanceAs (Decidable (p '%' = true ∧ ∀ n < 16, p (upperHex n) = true))

theorem forall_mem_percentEncode {keep p : Char → Bool} (hp : HoldsOfEscapes p)
    (hk : ∀ c, keep c = true → p c = true) (cs : List Char) :
    ∀ c ∈ percentEncode keep cs, p c = true := by
  intro c hc
  rcases mem_percentEncode hc with ⟨h, -⟩ | rfl | ⟨n, hn, rfl⟩
  · exact hk c h
  · exact hp.1
  · exact hp.2 n hn

/-! ### Decoding -/

@[simp] theorem percentDecode_nil : percentDecode [] = [] := rfl

theorem hexValue?_upperHex : ∀ n < 16, hexValue? (upperHex n) = some n := by decide

theorem percentDecode_cons {c : Char} (h : c ≠ '%') (cs : List Char) :
    percentDecode (c :: cs) = String.utf8EncodeChar c ++ percentDecode cs := by
  rw [percentDecode]
  rintro a b rest rfl
  exact absurd rfl h

theorem percentDecode_escapeByte (b : UInt8) (rest : List Char) :
    percentDecode (escapeByte b ++ rest) = b :: percentDecode rest := by
  have hb : b.toNat < 256 := b.toNat_lt_size
  have hsum : b.toNat / 16 * 16 + b.toNat % 16 = b.toNat := by omega
  simp only [escapeByte, List.cons_append, List.nil_append, percentDecode,
    hexValue?_upperHex _ (show b.toNat / 16 < 16 by omega),
    hexValue?_upperHex _ (show b.toNat % 16 < 16 by omega), hsum, UInt8.ofNat_toNat]

theorem percentDecode_flatMap_escapeByte (bs : List UInt8) (rest : List Char) :
    percentDecode (bs.flatMap escapeByte ++ rest) = bs ++ percentDecode rest := by
  induction bs with
  | nil => rfl
  | cons b bs ih =>
    rw [List.flatMap_cons, List.append_assoc, percentDecode_escapeByte, ih, List.cons_append]

/-- A coder that escapes the percent sign loses nothing. -/
theorem percentDecode_percentEncode {keep : Char → Bool} (hp : keep '%' = false) (cs : List Char) :
    percentDecode (percentEncode keep cs) = Utf8.encode cs := by
  induction cs with
  | nil => rfl
  | cons c r ih =>
    cases hk : keep c with
    | true =>
      have hne : c ≠ '%' := by
        rintro rfl
        simp [hp] at hk
      rw [percentEncode_cons_of_keep hk, percentDecode_cons hne, ih, Utf8.encode_cons]
    | false =>
      rw [percentEncode_cons_of_not_keep hk, percentDecode_flatMap_escapeByte, ih, Utf8.encode_cons]

end ApiToolbox.Url
