import ApiToolbox.Proofs.Url.Domain
import ApiToolbox.Url.Host

/-! The written form of a host. It is never empty, and it holds no blank, no control character and
nothing that ends a host, a port or an authority. -/

namespace ApiToolbox.Url

/-- A character that a host may be written with. -/
def isHostChar (c : Char) : Bool :=
  0x20 < c.toNat && c.toNat < 0x7F && c ≠ '/' && c ≠ '\\' && c ≠ '?' && c ≠ '#' && c ≠ '@'

theorem isHostChar_of_isNameChar {c : Char} (h : Domain.isNameChar c = true) :
    isHostChar c = true := by
  have hlt : c.toNat < 128 := by
    simp only [Domain.isNameChar, Bool.and_eq_true, decide_eq_true_eq] at h
    exact h.1
  exact Text.forall_ascii (P := fun c => Domain.isNameChar c = true → isHostChar c = true)
    (by decide +kernel) hlt h

/-- The digits of a number are digits of its base. -/
theorem exists_digitChar_of_mem_toDigits {b n : Nat} (hb : 1 < b) {c : Char}
    (h : c ∈ Nat.toDigits b n) : ∃ d < b, c = d.digitChar := by
  induction n using Nat.strongRecOn with
  | ind n ih =>
    rw [Nat.toDigits_eq_if hb] at h
    split at h
    · next hlt => exact ⟨n, hlt, List.mem_singleton.mp h⟩
    · next hge =>
      rcases List.mem_append.mp h with h | h
      · exact ih (n / b) (Nat.div_lt_self (by omega) hb) h
      · exact ⟨n % b, Nat.mod_lt _ (by omega), List.mem_singleton.mp h⟩

theorem isHostChar_of_mem_toDigits {b n : Nat} (hb : 1 < b) (hle : b ≤ 16) :
    ∀ c ∈ Nat.toDigits b n, isHostChar c = true := by
  intro c hc
  obtain ⟨d, hd, rfl⟩ := exists_digitChar_of_mem_toDigits hb hc
  exact (by decide : ∀ d < 16, isHostChar d.digitChar = true) d (by omega)

namespace Host

theorem isHostChar_numerals {b : Nat} (hb : 1 < b) (hle : b ≤ 16) {sep : Char}
    (hsep : isHostChar sep = true) (ns : List Nat) :
    ∀ c ∈ [sep].intercalate (ns.map (Nat.toDigits b)), isHostChar c = true := by
  refine Text.forall_mem_intercalate (by simpa using hsep) ?_
  intro part hpart
  obtain ⟨m, -, rfl⟩ := List.mem_map.mp hpart
  exact isHostChar_of_mem_toDigits hb hle

theorem isHostChar_ipv4Text (n : Nat) : ∀ c ∈ ipv4Text n, isHostChar c = true :=
  isHostChar_numerals (by decide) (by decide) (by decide) _

theorem isHostChar_colons (ps : List Nat) :
    ∀ c ∈ [':'].intercalate (ps.map hexText), isHostChar c = true :=
  isHostChar_numerals (by decide) (by decide) (by decide) ps

theorem isHostChar_ipv6Text (ps : List Nat) : ∀ c ∈ ipv6Text ps, isHostChar c = true := by
  intro c hc
  unfold ipv6Text at hc
  split at hc
  · next i n _ =>
    simp only [List.append_assoc, List.mem_append] at hc
    rcases hc with hc | hc | hc
    · exact isHostChar_colons _ c hc
    · exact List.all_eq_true.mp (by decide : [':', ':'].all isHostChar = true) c hc
    · exact isHostChar_colons _ c hc
  · exact isHostChar_colons _ c hc

/-- What `parse` gives: an address, or a name that is not empty and holds only characters of names. -/
theorem cases_of_parse {cs : List Char} {host : Host} (h : parse cs = .ok host) :
    (∃ ps, host = .ipv6 ps) ∨ (∃ n, host = .ipv4 n) ∨
      ∃ name, host = .domain name ∧ name ≠ "" ∧
        ∀ c ∈ name.toList, Domain.isNameChar c = true := by
  unfold parse at h
  split at h
  · next given hb =>
    unfold bracketed? at hb
    split at hb
    · obtain rfl := Option.some.inj hb
      split at h
      · split at h
        · next ps _ =>
          obtain rfl := Except.ok.inj h
          exact .inl ⟨ps, rfl⟩
        · cases h
      · cases h
    · cases hb
  · split at h
    · cases h
    · next name hname =>
      split at h
      · cases h
      · next hne =>
        split at h
        · split at h
          · next n _ =>
            obtain rfl := Except.ok.inj h
            exact .inr (.inl ⟨n, rfl⟩)
          · cases h
        · obtain rfl := Except.ok.inj h
          exact .inr (.inr ⟨name, rfl, hne, Domain.isNameChar_of_toAscii? hname⟩)

theorem isHostChar_text {cs : List Char} {host : Host} (h : parse cs = .ok host) :
    ∀ c ∈ host.text, isHostChar c = true := by
  rcases cases_of_parse h with ⟨ps, rfl⟩ | ⟨n, rfl⟩ | ⟨name, rfl, -, hname⟩
  · intro c hc
    simp only [text, List.mem_cons, List.mem_append, List.not_mem_nil, or_false] at hc
    rcases hc with rfl | hc | rfl
    · decide
    · exact isHostChar_ipv6Text ps c hc
    · decide
  · exact isHostChar_ipv4Text n
  · exact fun c hc => isHostChar_of_isNameChar (hname c hc)

theorem text_ne_nil {cs : List Char} {host : Host} (h : parse cs = .ok host) : host.text ≠ [] := by
  rcases cases_of_parse h with ⟨ps, rfl⟩ | ⟨n, rfl⟩ | ⟨name, rfl, hne, -⟩
  · simp [text]
  · simp [text, ipv4Text, List.intercalate_cons_of_ne_nil]
  · simpa [text] using hne

end Host
end ApiToolbox.Url
