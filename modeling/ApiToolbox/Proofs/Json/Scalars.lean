import ApiToolbox.Json.Parser
import ApiToolbox.Json.Printer
import ApiToolbox.Proofs.Binary64.Numeral

/-! Strings and integers are read back from their written forms. Of a string each character comes back from
its escape; of an integer all digits are read, since one that a word holds leaves room for each of them. -/

namespace ApiToolbox.Json

/-! ### Strings -/

section Strings

variable (fuel : Nat) (acc rest : List Char)

theorem stringTail_plain {c : Char} (hquote : c ≠ '"') (hslash : c ≠ '\\') (hc : 0x20 ≤ c.toNat) :
    stringTail (fuel + 1) acc (c :: rest) = stringTail fuel (c :: acc) rest := by
  rw [stringTail.eq_def]
  simp only [if_neg hquote, if_neg hslash, if_neg (Nat.not_lt.mpr hc)]

theorem stringTail_short {e c : Char} (h : shortEscape? e = some c) :
    stringTail (fuel + 1) acc ('\\' :: e :: rest) = stringTail fuel (c :: acc) rest := by
  have hu : e ≠ 'u' := by
    rintro rfl
    cases h
  simp [stringTail, h]

theorem hexValue?_hexDigit : ∀ n < 16, hexValue? (hexDigit n) = some n := by decide

theorem fourHex_byte {n : Nat} (h : n < 256) :
    fourHex ('0' :: '0' :: hexDigit (n / 16) :: hexDigit (n % 16) :: rest) = .ok (n, rest) := by
  have hzero : hexValue? '0' = some 0 := by decide
  have hhigh := hexValue?_hexDigit (n / 16) (by omega)
  have hlow := hexValue?_hexDigit (n % 16) (by omega)
  have hn : ((0 * 16 + 0) * 16 + n / 16) * 16 + n % 16 = n := by omega
  simp only [fourHex, hzero, hhigh, hlow, hn]

theorem stringTail_unicode {n : Nat} (h : n < 256) :
    stringTail (fuel + 1) acc
        ('\\' :: 'u' :: '0' :: '0' :: hexDigit (n / 16) :: hexDigit (n % 16) :: rest) =
      stringTail fuel (Char.ofNat n :: acc) rest := by
  have hescape : unicodeEscape ('0' :: '0' :: hexDigit (n / 16) :: hexDigit (n % 16) :: rest) =
      .ok (Char.ofNat n, rest) := by
    have hlow : ¬ 0xDC00 ≤ n := by omega
    have hhigh : n < 0xD800 := by omega
    simp [unicodeEscape, fourHex_byte rest h, bind, Except.bind, hlow, hhigh]
  simp [stringTail, hescape, bind, Except.bind]

/-- The written form of a character is read as that character. -/
theorem stringTail_escapeChar (c : Char) :
    stringTail (fuel + 1) acc (escapeChar c ++ rest) = stringTail fuel (c :: acc) rest := by
  unfold escapeChar
  split_ifs with hquote hslash hplain hback hfeed hline hreturn htab
  · exact stringTail_short fuel acc rest (by rw [hquote]; rfl)
  · exact stringTail_short fuel acc rest (by rw [hslash]; rfl)
  · exact stringTail_plain fuel acc rest hquote hslash hplain
  · exact stringTail_short fuel acc rest (by rw [← Char.ofNat_toNat c, hback]; rfl)
  · exact stringTail_short fuel acc rest (by rw [← Char.ofNat_toNat c, hfeed]; rfl)
  · exact stringTail_short fuel acc rest (by rw [hline]; rfl)
  · exact stringTail_short fuel acc rest (by rw [hreturn]; rfl)
  · exact stringTail_short fuel acc rest (by rw [htab]; rfl)
  · have h := stringTail_unicode fuel acc rest (n := c.toNat) (by omega)
    rwa [Char.ofNat_toNat] at h

theorem stringTail_flatMap {cs : List Char} (h : cs.length < fuel) :
    stringTail fuel acc (cs.flatMap escapeChar ++ '"' :: rest) =
      .ok (String.ofList (acc.reverse ++ cs), rest) := by
  induction cs generalizing fuel acc with
  | nil =>
    obtain ⟨fuel, rfl⟩ := Nat.exists_eq_add_one_of_ne_zero (Nat.ne_of_gt h)
    rw [List.flatMap_nil, List.nil_append, List.append_nil, stringTail.eq_def]
    simp
  | cons c cs ih =>
    obtain ⟨fuel, rfl⟩ := Nat.exists_eq_add_one_of_ne_zero (Nat.ne_of_gt (Nat.zero_lt_of_lt h))
    have hcs : cs.length < fuel := Nat.succ_lt_succ_iff.mp h
    rw [List.flatMap_cons, List.append_assoc, stringTail_escapeChar, ih fuel (c :: acc) hcs,
      List.reverse_cons, List.append_assoc, List.singleton_append]

end Strings

theorem length_le_length_flatMap_escapeChar (cs : List Char) :
    cs.length ≤ (cs.flatMap escapeChar).length := by
  have hone : ∀ n ∈ cs.map fun c => (escapeChar c).length, 1 ≤ n := by
    intro n hn
    obtain ⟨c, -, rfl⟩ := List.mem_map.mp hn
    unfold escapeChar
    split_ifs <;> simp
  have hsum := List.length_le_sum_of_one_le _ hone
  rwa [List.length_map, ← List.length_flatMap] at hsum

/-- A quoted string is read back after its opening quote. -/
theorem string_escaped (s : String) (rest : List Char) :
    string (s.toList.flatMap escapeChar ++ '"' :: rest) = .ok (s, rest) := by
  have hlength : s.toList.length < (s.toList.flatMap escapeChar ++ '"' :: rest).length + 1 := by
    have hle := length_le_length_flatMap_escapeChar s.toList
    rw [List.length_append]
    omega
  rw [string, stringTail_flatMap _ _ _ hlength, List.reverse_nil, List.nil_append, String.ofList_toList]

/-! ### Integers -/

/-- What is left of a text after a value: nothing, or what goes on with the container of the value. -/
def Closes (rest : List Char) : Prop := ∀ c ∈ rest.head?, c = ',' ∨ c = ']' ∨ c = '}'

theorem Closes.not_isDigit {rest : List Char} (h : Closes rest) :
    ∀ c ∈ rest.head?, c.isDigit = false := by
  intro c hc
  rcases h c hc with rfl | rfl | rfl <;> decide

/-- Digits whose number has room are read up to the last of them. -/
theorem wholeDigits_append {ds rest : List Char} (hds : ∀ c ∈ ds, c.isDigit = true)
    (hrest : ∀ c ∈ rest.head?, c.isDigit = false) {acc : Nat}
    (hroom : Nat.ofDigitChars 10 ds acc < significandLimit) :
    wholeDigits acc (ds ++ rest) = (Nat.ofDigitChars 10 ds acc, rest) := by
  induction ds generalizing acc with
  | nil =>
    cases rest with
    | nil => rfl
    | cons c r =>
      have hc : c.isDigit = false := hrest c rfl
      rw [List.nil_append, wholeDigits, if_neg (by simp [hc])]
      rfl
  | cons c r ih =>
    have hc : c.isDigit = true := hds c List.mem_cons_self
    rw [Nat.ofDigitChars_cons, Nat.mul_comm] at hroom ⊢
    -- the number of all digits is no less than that of the digits so far
    have hnext : acc * 10 + (c.toNat - 48) < significandLimit := by
      rw [Nat.ofDigitChars_eq_ofDigitChars_zero] at hroom
      have hpow : 0 < 10 ^ r.length := Nat.pow_pos (by decide)
      have hle := Nat.le_mul_of_pos_left (acc * 10 + (c.toNat - 48)) hpow
      exact hle.trans_lt ((Nat.le_add_right _ _).trans_lt hroom)
    rw [List.cons_append, wholeDigits, if_pos hc]
    show (if significandLimit ≤ acc * 10 + (c.toNat - 48) then _ else _) = _
    rw [if_neg (Nat.not_le.mpr hnext)]
    exact ih (fun d hd => hds d (List.mem_cons_of_mem c hd)) hroom

/-- The numeral of a positive number does not begin with a zero. -/
theorem head?_toDigits_ne_zero {n : Nat} (h : 0 < n) : (Nat.toDigits 10 n).head? ≠ some '0' := by
  induction n using Nat.strong_induction_on with
  | _ n ih =>
    by_cases hten : n < 10
    · rw [Nat.toDigits_of_lt_base hten]
      simpa [Nat.digitChar_eq_zero] using h.ne'
    · rw [Nat.toDigits_of_base_le (by decide) (Nat.not_lt.mp hten),
        List.head?_append_of_ne_nil _ Nat.toDigits_ne_nil]
      exact ih (n / 10) (by omega) (by omega)

theorem number_toDigits {n : Nat} (hn : n < significandLimit) {rest : List Char}
    (hrest : ∀ c ∈ rest.head?, c.isDigit = false) (negative : Bool) :
    number negative (Nat.toDigits 10 n ++ rest) = numberTail negative n rest := by
  rcases Nat.eq_zero_or_pos n with rfl | hpos
  · rw [Nat.toDigits_zero]
    cases rest with
    | nil => rfl
    | cons c r =>
      have hc : c.isDigit = false := hrest c rfl
      simp [number, hc]
  · obtain ⟨c, r, hcr, hc, hr⟩ := Binary64.exists_cons_toDigits n
    have hhead := head?_toDigits_ne_zero hpos
    have hvalue : Nat.ofDigitChars 10 (Nat.toDigits 10 n) 0 = n := Nat.ofDigitChars_ten_toDigits
    rw [hcr] at hhead hvalue ⊢
    have hzero : c ≠ '0' := by simpa using hhead
    have hread : wholeDigits (c.toNat - 48) (r ++ rest) = (n, rest) := by
      have htail : Nat.ofDigitChars 10 r (c.toNat - 48) = n := by
        rwa [Nat.ofDigitChars_cons, Nat.mul_zero, Nat.zero_add] at hvalue
      have h := wholeDigits_append hr hrest (htail ▸ hn)
      rwa [htail] at h
    rw [List.cons_append, number.eq_def]
    simp only [if_neg hzero, if_pos hc, hread]
    cases rest with
    | nil => rfl
    | cons d s => simp [hrest d rfl]

theorem numberTail_of_closes {rest : List Char} (h : Closes rest) (negative : Bool) (n : Nat) :
    numberTail negative n rest =
      if !negative then .ok (.integer n, rest)
      else if n = 0 || Nat.pow 2 63 < n then double true n 0 rest
      else .ok (.integer (-n), rest) := by
  unfold numberTail
  split
  · exact absurd (h '.' rfl) (by decide)
  · exact absurd (h 'e' rfl) (by decide)
  · exact absurd (h 'E' rfl) (by decide)
  · rfl

theorem number_of_nonneg {n : Nat} (hn : n < 2 ^ 64) {rest : List Char} (hrest : Closes rest) :
    number false (Nat.toDigits 10 n ++ rest) = .ok (.integer n, rest) := by
  rw [number_toDigits hn hrest.not_isDigit, numberTail_of_closes hrest]
  rfl

theorem number_of_neg {n : Nat} (hpos : 0 < n) (hn : n ≤ 2 ^ 63) {rest : List Char}
    (hrest : Closes rest) :
    number true (Nat.toDigits 10 n ++ rest) = .ok (.integer (-n), rest) := by
  have hlimit : n < significandLimit := hn.trans_lt (by decide)
  have hlow : ¬ Nat.pow 2 63 < n := Nat.not_lt.mpr hn
  rw [number_toDigits hlimit hrest.not_isDigit, numberTail_of_closes hrest]
  simp [hpos.ne', hlow]

end ApiToolbox.Json
