import ApiToolbox.Proofs.Document

/-! What a text shows of the value that is read from it: how it begins tells the kind of the value, and a string
is shorter than the text that it is written as. -/

namespace ApiToolbox.Json

/-- The character with which the text of a value begins. -/
def Value.BeginsWith : Value → Char → Prop
  | .null, c => c = 'n'
  | .bool true, c => c = 't'
  | .bool false, c => c = 'f'
  | .number _, c => c = '-' ∨ c.isDigit = true
  | .string _, c => c = '"'
  | .array _, c => c = '['
  | .object _, c => c = '{'

theorem Value.BeginsWith.members?_eq_none_iff {v : Value} {c : Char} (h : v.BeginsWith c) :
    v.members? = none ↔ c ≠ '{' := by
  cases v with
  | number n =>
    refine iff_of_true rfl ?_
    rintro rfl
    rcases h with h | h <;> exact absurd h (by decide)
  | bool b => cases b <;> obtain rfl := h <;> simp [members?]
  | _ =>
    obtain rfl := h
    simp [members?]

theorem Value.BeginsWith.items?_eq_none_iff {v : Value} {c : Char} (h : v.BeginsWith c) :
    v.items? = none ↔ c ≠ '[' := by
  cases v with
  | number n =>
    refine iff_of_true rfl ?_
    rintro rfl
    rcases h with h | h <;> exact absurd h (by decide)
  | bool b => cases b <;> obtain rfl := h <;> simp [items?]
  | _ =>
    obtain rfl := h
    simp [items?]

variable {repeats : Repeats} {fuel depth : Nat} {cs rest : List Char}

/-! ### The kind of a value -/

theorem gives_items (first : Bool) (acc : List Value) (cs : List Char) :
    Gives (·.BeginsWith '[') (items repeats fuel depth first acc cs) := by
  induction fuel generalizing first acc cs with
  | zero =>
    rw [items]
    exact gives_error _
  | succ fuel ih =>
    exact gives_items_of_next (Eq.refl '[') (fun cs => gives_bind fun v rest _ => ih false _ rest) cs

theorem gives_members (fuel : Nat) :
    (∀ first acc cs, Gives (·.BeginsWith '{') (members repeats fuel depth first acc cs)) ∧
      ∀ acc cs, Gives (·.BeginsWith '{') (member repeats fuel depth acc cs) := by
  induction fuel with
  | zero =>
    refine ⟨fun first acc cs => ?_, fun acc cs => ?_⟩
    · rw [members]
      exact gives_error _
    · rw [member]
      exact gives_error _
  | succ fuel ih =>
    refine ⟨fun first acc cs => ?_, fun acc cs => ?_⟩
    · exact gives_members_of_next (Eq.refl '{') (ih.2 acc) cs
    · exact gives_member_of_next (fun key v cs rest _ => ih.1 false _ rest) cs

theorem gives_value {c : Char} {r : List Char} (hcs : skipSpace cs = c :: r) :
    Gives (·.BeginsWith c) (value repeats fuel depth cs) := by
  cases fuel with
  | zero =>
    rw [value]
    exact gives_error _
  | succ fuel =>
    rw [value, hcs]
    refine gives_ite (fun hc => gives_literal hc _ _) fun _ => ?_
    refine gives_ite (fun hc => gives_literal hc _ _) fun _ => ?_
    refine gives_ite (fun hc => gives_literal hc _ _) fun _ => ?_
    refine gives_ite (fun hc => gives_map fun _ => .inl hc) fun _ => ?_
    refine gives_ite (fun hc => gives_map fun _ => .inr hc) fun _ => ?_
    refine gives_ite (fun hc => gives_map fun _ => hc) fun _ => ?_
    refine gives_ite (fun hc => ?_) fun _ => gives_ite (fun hc => ?_) fun _ => gives_error _
    · subst hc
      cases depth with
      | zero => exact gives_error _
      | succ depth => exact gives_items true [] r
    · subst hc
      cases depth with
      | zero => exact gives_error _
      | succ depth => exact (gives_members _).1 true [] r

theorem exists_fuel_of_value {v : Value} (h : value repeats fuel depth cs = .ok (v, rest)) :
    ∃ n, fuel = n + 1 := by
  cases fuel with
  | zero =>
    rw [value] at h
    cases h
  | succ n => exact ⟨n, rfl⟩

/-- The first character that is no white space tells which kind of value is read. -/
theorem beginsWith_of_value {v : Value} (h : value repeats fuel depth cs = .ok (v, rest)) :
    ∃ c r, skipSpace cs = c :: r ∧ v.BeginsWith c := by
  cases hcs : skipSpace cs with
  | nil =>
    obtain ⟨fuel, rfl⟩ := exists_fuel_of_value h
    rw [value, hcs] at h
    cases h
  | cons c r => exact ⟨c, r, rfl, gives_value hcs v rest h⟩

/-! ### The text of null -/

theorem literal_eq_ok_iff {v w : Value} {es : List Char} :
    literal v es cs = .ok (w, rest) ↔ w = v ∧ cs = es ++ rest := by
  induction es generalizing cs with
  | nil =>
    rw [literal, Except.ok.injEq, Prod.mk.injEq, List.nil_append, eq_comm (a := v)]
  | cons e es ih =>
    cases cs with
    | nil => simp [literal, stopAt]
    | cons c cs =>
      rw [literal]
      split
      · next hc => simp [hc, ih]
      · next hc => simp [hc, stopOn]

theorem skipSpace_of_null (h : value repeats fuel depth cs = .ok (.null, rest)) :
    skipSpace cs = ['n', 'u', 'l', 'l'] ++ rest := by
  obtain ⟨c, r, hcs, rfl⟩ := beginsWith_of_value h
  obtain ⟨fuel, rfl⟩ := exists_fuel_of_value h
  rw [value, hcs] at h
  obtain ⟨-, rfl⟩ := literal_eq_ok_iff.mp h
  exact hcs

/-! ### The text of a string -/

theorem length_of_fourHex {n : Nat} (h : fourHex cs = .ok (n, rest)) : cs.length = rest.length + 4 := by
  unfold fourHex at h
  split at h
  · split at h
    · obtain ⟨-, rfl⟩ := Prod.mk.inj (Except.ok.inj h)
      rfl
    · cases h
  · split at h <;> cases h

theorem length_of_unicodeEscape {c : Char} (h : unicodeEscape cs = .ok (c, rest)) :
    rest.length ≤ cs.length := by
  unfold unicodeEscape at h
  obtain ⟨⟨high, r⟩, hhigh, h⟩ := bind_eq_ok_iff.mp h
  have hlength := length_of_fourHex hhigh
  dsimp only at h
  split at h
  · cases h
  · split at h
    · obtain ⟨-, rfl⟩ := Prod.mk.inj (Except.ok.inj h)
      omega
    · split at h
      · next r =>
        obtain ⟨⟨low, r'⟩, hlow, h⟩ := bind_eq_ok_iff.mp h
        have hlength' := length_of_fourHex hlow
        dsimp only at h
        split at h
        · obtain ⟨-, rfl⟩ := Prod.mk.inj (Except.ok.inj h)
          simp only [List.length_cons] at hlength
          omega
        · cases h
      all_goals cases h

/-- No character of a string takes less than one of its text. -/
theorem length_of_stringTail {acc : List Char} {s : String}
    (h : stringTail fuel acc cs = .ok (s, rest)) : s.toList.length ≤ acc.length + cs.length := by
  fun_induction stringTail fuel acc cs with
  | case3 _ acc cs =>
    obtain ⟨rfl, -⟩ := Prod.mk.inj (Except.ok.inj h)
    simp
  | case5 _ acc r _ ih =>
    obtain ⟨⟨e, r'⟩, he, htail⟩ := bind_eq_ok_iff.mp h
    have hescape := length_of_unicodeEscape he
    have hrest := ih e r' htail
    simp only [List.length_cons] at hrest ⊢
    omega
  | case6 _ acc _ r _ e _ _ ih =>
    have hrest := ih h
    simp only [List.length_cons] at hrest ⊢
    omega
  | case9 _ acc c cs _ _ _ ih =>
    have hrest := ih h
    simp only [List.length_cons] at hrest ⊢
    omega
  | case1 | case2 | case4 | case7 | case8 => cases h

theorem exists_string_of_value {s : String}
    (h : value repeats fuel depth cs = .ok (.string s, rest)) :
    ∃ r, skipSpace cs = '"' :: r ∧ string r = .ok (s, rest) := by
  obtain ⟨c, r, hcs, rfl⟩ := beginsWith_of_value h
  refine ⟨r, hcs, ?_⟩
  obtain ⟨fuel, rfl⟩ := exists_fuel_of_value h
  rw [value, hcs] at h
  obtain ⟨⟨s', rest'⟩, hstring, heq⟩ := map_eq_ok_iff.mp h
  obtain ⟨hs, rfl⟩ := Prod.mk.inj heq
  rw [hstring, Value.string.inj hs]

/-! ### Whole texts -/

section Parse

variable {text : String} {v : Value}

theorem beginsWith_of_parse (h : parse text = .ok v) :
    ∃ c r, skipSpace text.toList = c :: r ∧ v.BeginsWith c := by
  obtain ⟨rest, hread, -⟩ := parse_eq_ok_iff.mp h
  exact beginsWith_of_value hread

/-- A text is not the string that it is written as. -/
theorem ne_string_of_parse (h : parse text = .ok v) : v ≠ .string text := by
  rintro rfl
  obtain ⟨rest, hread, -⟩ := parse_eq_ok_iff.mp h
  obtain ⟨r, hr, hstring⟩ := exists_string_of_value hread
  -- The opening quote alone makes the text longer than what is read from it.
  have hlength : text.toList.length ≤ r.length := by
    simpa using length_of_stringTail hstring
  have hskip := (List.dropWhile_suffix isSpace (l := text.toList)).length_le
  rw [show text.toList.dropWhile isSpace = _ from hr, List.length_cons] at hskip
  omega

end Parse

end ApiToolbox.Json
