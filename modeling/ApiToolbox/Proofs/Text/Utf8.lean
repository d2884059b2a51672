import ApiToolbox.Text.Utf8
import Mathlib.Tactic.SplitIfs

/-! UTF-8 in both directions. The bytes of a text decode to that text, and among texts of ASCII the
order of the bytes is that of the characters. -/

namespace ApiToolbox.Text.Utf8

@[simp] theorem encode_nil : encode [] = [] := rfl

@[simp] theorem encode_cons (c : Char) (cs : List Char) :
    encode (c :: cs) = String.utf8EncodeChar c ++ encode cs := rfl

/-! ### Reading one character -/

/-- The bytes of a character, by the size of its code point. -/
theorem utf8EncodeChar_eq (c : Char) : String.utf8EncodeChar c =
    if c.toNat ≤ 0x7F then [UInt8.ofNat c.toNat]
    else if c.toNat ≤ 0x7FF then
      [UInt8.ofNat (c.toNat / 64 % 32 + 192), UInt8.ofNat (c.toNat % 64 + 128)]
    else if c.toNat ≤ 0xFFFF then
      [UInt8.ofNat (c.toNat / 4096 % 16 + 224), UInt8.ofNat (c.toNat / 64 % 64 + 128),
        UInt8.ofNat (c.toNat % 64 + 128)]
    else
      [UInt8.ofNat (c.toNat / 262144 % 8 + 240), UInt8.ofNat (c.toNat / 4096 % 64 + 128),
        UInt8.ofNat (c.toNat / 64 % 64 + 128), UInt8.ofNat (c.toNat % 64 + 128)] := by
  simp [String.utf8EncodeChar, UInt8.ofNat_add]

theorem utf8EncodeChar_of_ascii {c : Char} (h : c.toNat < 128) :
    String.utf8EncodeChar c = [UInt8.ofNat c.toNat] := by
  rw [utf8EncodeChar_eq, if_pos (by omega)]

/-! Comparisons of bytes as comparisons of numbers. -/

theorem lt_ofNat_iff {n : Nat} (hn : n < UInt8.size) (b : UInt8) :
    b < UInt8.ofNat n ↔ b.toNat < n := by
  rw [UInt8.lt_iff_toNat_lt, UInt8.toNat_ofNat_of_lt' hn]

theorem between_iff {m n : Nat} (hm : m < UInt8.size) (hn : n < UInt8.size) (b : UInt8) :
    (UInt8.ofNat m ≤ b && b ≤ UInt8.ofNat n) = true ↔ m ≤ b.toNat ∧ b.toNat ≤ n := by
  rw [Bool.and_eq_true, decide_eq_true_eq, decide_eq_true_eq, UInt8.le_iff_toNat_le,
    UInt8.le_iff_toNat_le, UInt8.toNat_ofNat_of_lt' hm, UInt8.toNat_ofNat_of_lt' hn]

theorem isContinuation_iff (b : UInt8) : isContinuation b = true ↔ 128 ≤ b.toNat ∧ b.toNat ≤ 191 :=
  between_iff (m := 128) (n := 191) (by decide) (by decide) b

theorem leadsTwo_iff (b : UInt8) : (0xC2 ≤ b && b ≤ 0xDF) = true ↔ 194 ≤ b.toNat ∧ b.toNat ≤ 223 :=
  between_iff (m := 194) (n := 223) (by decide) (by decide) b

theorem leadsThree_iff (b : UInt8) : (0xE0 ≤ b && b ≤ 0xEF) = true ↔ 224 ≤ b.toNat ∧ b.toNat ≤ 239 :=
  between_iff (m := 224) (n := 239) (by decide) (by decide) b

theorem leadsFour_iff (b : UInt8) : (0xF0 ≤ b && b ≤ 0xF4) = true ↔ 240 ≤ b.toNat ∧ b.toNat ≤ 244 :=
  between_iff (m := 240) (n := 244) (by decide) (by decide) b

/-! What a step reads, by the size of the character. -/

section Step

variable {b c d e : UInt8}

theorem not_lt_of_le (h : 128 ≤ b.toNat) : ¬ b < 0x80 :=
  mt (lt_ofNat_iff (n := 128) (by decide) b).mp (by omega)

theorem step_one (h : b.toNat < 128) (rest : List UInt8) :
    step b rest = (some (Char.ofNat b.toNat), 0) := by
  have hone : b < 0x80 := (lt_ofNat_iff (n := 128) (by decide) b).mpr h
  rw [step.eq_def, if_pos hone]

theorem step_two (hb : 194 ≤ b.toNat ∧ b.toNat ≤ 223) (hc : 128 ≤ c.toNat ∧ c.toNat ≤ 191)
    (rest : List UInt8) :
    step b (c :: rest) = (some (Char.ofNat (b.toNat % 32 * 64 + c.toNat % 64)), 1) := by
  rw [step.eq_def, if_neg (not_lt_of_le (by omega)), if_pos ((leadsTwo_iff b).mpr hb)]
  simp only [(isContinuation_iff c).mpr hc, if_true, payload]

theorem within_secondOfThree (hc : 128 ≤ c.toNat ∧ c.toNat ≤ 191)
    (hlow : b.toNat = 224 → 160 ≤ c.toNat) (hhigh : b.toNat = 237 → c.toNat ≤ 159) :
    within (secondOfThree b) c = true := by
  have he0 : b = 0xE0 ↔ b.toNat = 224 := UInt8.toNat_inj.symm
  have hed : b = 0xED ↔ b.toNat = 237 := UInt8.toNat_inj.symm
  simp only [within, secondOfThree, he0, hed]
  split_ifs
  · exact (between_iff (m := 160) (n := 191) (by decide) (by decide) c).mpr (by omega)
  · exact (between_iff (m := 128) (n := 159) (by decide) (by decide) c).mpr (by omega)
  · exact (between_iff (m := 128) (n := 191) (by decide) (by decide) c).mpr (by omega)

theorem step_three (hb : 224 ≤ b.toNat ∧ b.toNat ≤ 239) (hc : 128 ≤ c.toNat ∧ c.toNat ≤ 191)
    (hd : 128 ≤ d.toNat ∧ d.toNat ≤ 191) (hlow : b.toNat = 224 → 160 ≤ c.toNat)
    (hhigh : b.toNat = 237 → c.toNat ≤ 159) (rest : List UInt8) : step b (c :: d :: rest) =
      (some (Char.ofNat ((b.toNat % 16 * 64 + c.toNat % 64) * 64 + d.toNat % 64)), 2) := by
  rw [step.eq_def, if_neg (not_lt_of_le (by omega)),
    if_neg (mt (leadsTwo_iff b).mp (by omega)), if_pos ((leadsThree_iff b).mpr hb)]
  simp only [within_secondOfThree hc hlow hhigh, (isContinuation_iff d).mpr hd, if_true, payload]

theorem within_secondOfFour (hc : 128 ≤ c.toNat ∧ c.toNat ≤ 191)
    (hlow : b.toNat = 240 → 144 ≤ c.toNat) (hhigh : b.toNat = 244 → c.toNat ≤ 143) :
    within (secondOfFour b) c = true := by
  have hf0 : b = 0xF0 ↔ b.toNat = 240 := UInt8.toNat_inj.symm
  have hf4 : b = 0xF4 ↔ b.toNat = 244 := UInt8.toNat_inj.symm
  simp only [within, secondOfFour, hf0, hf4]
  split_ifs
  · exact (between_iff (m := 144) (n := 191) (by decide) (by decide) c).mpr (by omega)
  · exact (between_iff (m := 128) (n := 143) (by decide) (by decide) c).mpr (by omega)
  · exact (between_iff (m := 128) (n := 191) (by decide) (by decide) c).mpr (by omega)

theorem step_four (hb : 240 ≤ b.toNat ∧ b.toNat ≤ 244) (hc : 128 ≤ c.toNat ∧ c.toNat ≤ 191)
    (hd : 128 ≤ d.toNat ∧ d.toNat ≤ 191) (he : 128 ≤ e.toNat ∧ e.toNat ≤ 191)
    (hlow : b.toNat = 240 → 144 ≤ c.toNat) (hhigh : b.toNat = 244 → c.toNat ≤ 143)
    (rest : List UInt8) : step b (c :: d :: e :: rest) =
      (some (Char.ofNat
        (((b.toNat % 8 * 64 + c.toNat % 64) * 64 + d.toNat % 64) * 64 + e.toNat % 64)), 3) := by
  rw [step.eq_def, if_neg (not_lt_of_le (by omega)),
    if_neg (mt (leadsTwo_iff b).mp (by omega)), if_neg (mt (leadsThree_iff b).mp (by omega)),
    if_pos ((leadsFour_iff b).mpr hb)]
  simp only [within_secondOfFour hc hlow hhigh, (isContinuation_iff d).mpr hd,
    (isContinuation_iff e).mpr he, if_true, payload]

end Step

/-- Reading takes exactly the bytes of the first character. -/
theorem step_utf8EncodeChar (c : Char) (rest : List UInt8) :
    ∃ b bs, String.utf8EncodeChar c = b :: bs ∧ step b (bs ++ rest) = (some c, bs.length) := by
  have hvalid : c.toNat < 0xD800 ∨ 0xDFFF < c.toNat ∧ c.toNat < 0x110000 := c.valid
  have hbyte {n : Nat} (h : n < 256) : (UInt8.ofNat n).toNat = n := UInt8.toNat_ofNat_of_lt' h
  have hd := hbyte (n := c.toNat % 64 + 128) (by omega)
  have hc := hbyte (n := c.toNat / 64 % 64 + 128) (by omega)
  have hb := hbyte (n := c.toNat / 4096 % 64 + 128) (by omega)
  rw [utf8EncodeChar_eq]
  by_cases h1 : c.toNat ≤ 0x7F
  · have hn := hbyte (n := c.toNat) (by omega)
    refine ⟨_, _, if_pos h1, ?_⟩
    rw [step_one (by omega), hn, Char.ofNat_toNat]
    rfl
  · by_cases h2 : c.toNat ≤ 0x7FF
    · have ha := hbyte (n := c.toNat / 64 % 32 + 192) (by omega)
      refine ⟨_, _, (if_neg h1).trans (if_pos h2), ?_⟩
      rw [List.singleton_append, step_two (by omega) (by omega), ha, hd]
      rw [show (c.toNat / 64 % 32 + 192) % 32 * 64 + (c.toNat % 64 + 128) % 64 = c.toNat by omega,
        Char.ofNat_toNat]
      rfl
    · by_cases h3 : c.toNat ≤ 0xFFFF
      · have ha := hbyte (n := c.toNat / 4096 % 16 + 224) (by omega)
        refine ⟨_, _, (if_neg h1).trans ((if_neg h2).trans (if_pos h3)), ?_⟩
        rw [List.cons_append, List.singleton_append, step_three (by omega) (by omega) (by omega)
          (by omega) (by omega), ha, hc, hd]
        rw [show ((c.toNat / 4096 % 16 + 224) % 16 * 64 + (c.toNat / 64 % 64 + 128) % 64) * 64 +
          (c.toNat % 64 + 128) % 64 = c.toNat by omega, Char.ofNat_toNat]
        rfl
      · have ha := hbyte (n := c.toNat / 262144 % 8 + 240) (by omega)
        refine ⟨_, _, (if_neg h1).trans ((if_neg h2).trans (if_neg h3)), ?_⟩
        rw [List.cons_append, List.cons_append, List.singleton_append, step_four (by omega) (by omega)
          (by omega) (by omega) (by omega) (by omega), ha, hb, hc, hd]
        rw [show (((c.toNat / 262144 % 8 + 240) % 8 * 64 + (c.toNat / 4096 % 64 + 128) % 64) * 64 +
          (c.toNat / 64 % 64 + 128) % 64) * 64 + (c.toNat % 64 + 128) % 64 = c.toNat by omega,
          Char.ofNat_toNat]
        rfl

/-! ### Reading a text -/

theorem units_encode (cs : List Char) : units (encode cs) = cs.map some := by
  induction cs with
  | nil => simp [units]
  | cons c cs ih =>
    obtain ⟨b, bs, hc, hstep⟩ := step_utf8EncodeChar c (encode cs)
    rw [encode_cons, hc, List.cons_append, units, hstep]
    simp [ih]

theorem decode?_encode (cs : List Char) : decode? (encode cs) = some cs := by
  rw [decode?, units_encode]
  induction cs with
  | nil => rfl
  | cons c cs ih => simp [ih]

theorem decodeLossy_encode (cs : List Char) : decodeLossy (encode cs) = cs := by
  rw [decodeLossy, units_encode, List.map_map]
  exact List.map_id' cs

/-! ### The order of bytes -/

theorem encode_lt_encode {as bs : List Char} (ha : ∀ c ∈ as, c.toNat < 128)
    (hb : ∀ c ∈ bs, c.toNat < 128) (h : as < bs) : encode as < encode bs := by
  induction as generalizing bs with
  | nil =>
    cases bs with
    | nil => exact absurd h (by simp)
    | cons d ds => simp [utf8EncodeChar_of_ascii (hb d (by simp))]
  | cons c cs ih =>
    cases bs with
    | nil => exact absurd h (by simp)
    | cons d ds =>
      have hc := ha c (by simp)
      have hd := hb d (by simp)
      simp only [encode_cons, utf8EncodeChar_of_ascii hc, utf8EncodeChar_of_ascii hd,
        List.singleton_append]
      rw [List.cons_lt_cons_iff] at h ⊢
      rcases h with h | ⟨rfl, h⟩
      · have hlt : c.toNat < d.toNat := h
        refine Or.inl ?_
        rwa [lt_ofNat_iff (show _ < 256 by omega), UInt8.toNat_ofNat_of_lt' (show _ < 256 by omega)]
      · exact Or.inr ⟨rfl, ih (fun x hx => ha x (by simp [hx])) (fun x hx => hb x (by simp [hx])) h⟩

end ApiToolbox.Text.Utf8
