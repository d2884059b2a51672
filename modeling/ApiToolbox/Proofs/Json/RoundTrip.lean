import ApiToolbox.Proofs.Document
import ApiToolbox.Proofs.Json.Scalars

/-! A value whose numbers are integers is read back from its compact text: each string and integer ends where
its written form ends, each container where its own bracket closes it, and members come back under their
keys in the same order. -/

namespace ApiToolbox.Json

/-- A value with at most `depth` containers inside one another, whose numbers are integers: from the least
signed one of 64 bits to the greatest unsigned one. -/
inductive Value.Plain : Nat → Value → Prop where
  | null {depth : Nat} : Plain depth .null
  | bool {depth : Nat} (b : Bool) : Plain depth (.bool b)
  | int {depth : Nat} {n : Int} (hlow : -2 ^ 63 ≤ n) (hhigh : n < 2 ^ 64) : Plain depth (.int n)
  | string {depth : Nat} (s : String) : Plain depth (.string s)
  | array {depth : Nat} {items : List Value} (h : ∀ v ∈ items, v.Plain depth) :
      Plain (depth + 1) (.array items)
  | object {depth : Nat} {members : Members Value} (h : ∀ m ∈ members, m.2.Plain depth) :
      Plain (depth + 1) (.object members)

/-! ### How written forms begin -/

theorem skipSpace_cons {c : Char} (h : isSpace c = false) (r : List Char) :
    skipSpace (c :: r) = c :: r :=
  List.dropWhile_cons_of_neg (by simp [h])

theorem not_isSpace_of_isDigit {c : Char} (h : c.isDigit = true) : isSpace c = false := by
  have hne (d : Char) (hd : d.isDigit = false) : c ≠ d := Binary64.ne_of_isDigit h hd
  simp [isSpace, hne ' ' (by decide), hne '\n' (by decide), hne '\t' (by decide), hne '\r' (by decide)]

/-- A character with which a value may begin. -/
def Opens (c : Char) : Prop := isSpace c = false ∧ c ≠ ']'

theorem exists_cons_toString (n : Int) : ∃ c r, (toString n).toList = c :: r ∧ Opens c := by
  cases n with
  | ofNat k =>
    obtain ⟨c, r, hcr, hc, -⟩ := Binary64.exists_cons_toDigits k
    exact ⟨c, r, by rw [Binary64.toList_toString_ofNat, hcr], not_isSpace_of_isDigit hc,
      Binary64.ne_of_isDigit hc (by decide)⟩
  | negSucc k =>
    exact ⟨'-', Nat.toDigits 10 (k + 1), Binary64.toList_toString_negSucc k, by decide, by decide⟩

theorem Value.Plain.exists_cons_compact {depth : Nat} {v : Value} (h : v.Plain depth) :
    ∃ c r, compact v = c :: r ∧ Opens c := by
  cases h with
  | null => exact ⟨'n', _, rfl, by decide, by decide⟩
  | bool b =>
    cases b with
    | true => exact ⟨'t', _, rfl, by decide, by decide⟩
    | false => exact ⟨'f', _, rfl, by decide, by decide⟩
  | int hlow hhigh => exact exists_cons_toString _
  | string s => exact ⟨'"', _, rfl, by decide, by decide⟩
  | @array _ items h => cases items <;> exact ⟨'[', _, rfl, by decide, by decide⟩
  | @object _ members h => cases members <;> exact ⟨'{', _, rfl, by decide, by decide⟩

theorem Value.Plain.length_compact_pos {depth : Nat} {v : Value} (h : v.Plain depth) :
    0 < (compact v).length := by
  obtain ⟨c, r, hcr, -⟩ := h.exists_cons_compact
  rw [hcr]
  exact Nat.succ_pos r.length

theorem length_compactItems_pos (vs : List Value) : 0 < (compactItems vs).length := by
  cases vs <;> simp [compactItems]

theorem length_compactMembers_pos (ms : Members Value) : 0 < (compactMembers ms).length := by
  cases ms <;> simp [compactMembers]

theorem closes_compactItems (vs : List Value) (rest : List Char) : Closes (compactItems vs ++ rest) := by
  cases vs <;> simp [Closes, compactItems]

theorem closes_compactMembers (ms : Members Value) (rest : List Char) :
    Closes (compactMembers ms ++ rest) := by
  cases ms with
  | nil => simp [Closes, compactMembers]
  | cons m ms => simp [Closes, compactMembers]

section Reads

variable {repeats : Repeats} {fuel depth : Nat} {rest : List Char}

/-! ### Scalars -/

theorem quote_append (s : String) (rest : List Char) :
    quote s ++ rest = '"' :: (s.toList.flatMap escapeChar ++ '"' :: rest) := by
  rw [quote, List.cons_append, List.append_assoc, List.singleton_append]

theorem value_quote (s : String) :
    value repeats (fuel + 1) depth (quote s ++ rest) = .ok (.string s, rest) := by
  rw [quote_append, value, skipSpace_cons (by decide)]
  simp [string_escaped, Except.map]

theorem value_of_isDigit {c : Char} (hc : c.isDigit = true) (r : List Char) :
    value repeats (fuel + 1) depth (c :: r) =
      (number false (c :: r)).map fun (n, rest) => (.number n, rest) := by
  have hne (d : Char) (hd : d.isDigit = false) : c ≠ d := Binary64.ne_of_isDigit hc hd
  rw [value, skipSpace_cons (not_isSpace_of_isDigit hc)]
  simp [hne 'n' (by decide), hne 't' (by decide), hne 'f' (by decide), hne '-' (by decide), hc]

theorem value_toString {n : Int} (hlow : -2 ^ 63 ≤ n) (hhigh : n < 2 ^ 64) (hrest : Closes rest) :
    value repeats (fuel + 1) depth ((toString n).toList ++ rest) = .ok (.int n, rest) := by
  cases n with
  | ofNat k =>
    have hk : k < 2 ^ 64 := by
      rw [Int.ofNat_eq_natCast] at hhigh
      exact_mod_cast hhigh
    have hread := number_of_nonneg hk hrest
    obtain ⟨c, r, hcr, hc, -⟩ := Binary64.exists_cons_toDigits k
    rw [hcr, List.cons_append] at hread
    rw [Binary64.toList_toString_ofNat, hcr, List.cons_append, value_of_isDigit hc, hread]
    rfl
  | negSucc k =>
    have hk : k + 1 ≤ 2 ^ 63 := by omega
    rw [Binary64.toList_toString_negSucc, List.cons_append, value, skipSpace_cons (by decide)]
    simp [number_of_neg k.succ_pos hk hrest, Except.map, Value.int, Int.negSucc_eq]

/-! ### Containers -/

/-- With as many steps as its written form has characters, a value is read back from it. -/
def ReadsBack (repeats : Repeats) (depth : Nat) (v : Value) : Prop :=
  ∀ fuel rest, (compact v).length ≤ fuel → Closes rest →
    value repeats fuel depth (compact v ++ rest) = .ok (v, rest)

/-- What is no container is read in one step. -/
theorem readsBack_of_step {v : Value} (hv : v.Plain depth) (hstep : ∀ fuel rest, Closes rest →
    value repeats (fuel + 1) depth (compact v ++ rest) = .ok (v, rest)) : ReadsBack repeats depth v := by
  intro fuel rest hfuel hrest
  obtain ⟨fuel, rfl⟩ := Nat.exists_eq_add_one.mpr (hv.length_compact_pos.trans_le hfuel)
  exact hstep fuel rest hrest

section Items

variable {acc : List Value} {v : Value} (hv : v.Plain depth) (hread : ReadsBack repeats depth v)
  (hfuel : (compact v).length ≤ fuel) (hrest : Closes rest)
include hv hread hfuel hrest

/-- The written form begins with a character of its own, and from there the value is read. -/
theorem exists_cons_readsBack : ∃ c r, compact v ++ rest = c :: r ∧ Opens c ∧
    value repeats fuel depth (c :: r) = .ok (v, rest) := by
  obtain ⟨c, r, hcr, hopens⟩ := hv.exists_cons_compact
  have hvalue := hread fuel rest hfuel hrest
  rw [hcr, List.cons_append] at hvalue
  exact ⟨c, r ++ rest, by rw [hcr, List.cons_append], hopens, hvalue⟩

theorem items_first : items repeats (fuel + 1) depth true acc (compact v ++ rest) =
    items repeats fuel depth false (v :: acc) rest := by
  obtain ⟨c, r, hcr, ⟨hspace, hbracket⟩, hvalue⟩ := exists_cons_readsBack hv hread hfuel hrest
  rw [hcr, items, skipSpace_cons hspace]
  simp [hbracket, hvalue, bind, Except.bind]

theorem items_next : items repeats (fuel + 1) depth false acc (',' :: (compact v ++ rest)) =
    items repeats fuel depth false (v :: acc) rest := by
  obtain ⟨c, r, hcr, ⟨hspace, hbracket⟩, hvalue⟩ := exists_cons_readsBack hv hread hfuel hrest
  rw [hcr, items, skipSpace_cons (by decide)]
  simp [skipSpace_cons hspace, hbracket, hvalue, bind, Except.bind]

end Items

theorem items_compactItems {vs : List Value} (hvs : ∀ v ∈ vs, v.Plain depth)
    (hread : ∀ v ∈ vs, ReadsBack repeats depth v) {acc : List Value}
    (hfuel : (compactItems vs).length ≤ fuel) :
    items repeats fuel depth false acc (compactItems vs ++ rest) =
      .ok (.array (acc.reverse ++ vs), rest) := by
  induction vs generalizing fuel acc with
  | nil =>
    obtain ⟨fuel, rfl⟩ := Nat.exists_eq_add_one.mpr hfuel
    rw [compactItems, List.singleton_append, items, skipSpace_cons (by decide)]
    simp
  | cons v vs ih =>
    rw [compactItems, List.length_cons, List.length_append] at hfuel
    obtain ⟨fuel, rfl⟩ := Nat.exists_eq_add_one.mpr (Nat.zero_lt_of_lt hfuel)
    rw [compactItems, List.cons_append, List.append_assoc,
      items_next (hvs v (by simp)) (hread v (by simp)) (by omega) (closes_compactItems vs rest),
      ih (fun w hw => hvs w (by simp [hw])) (fun w hw => hread w (by simp [hw])) (by omega)]
    simp

section Members

variable {acc : Members Value} {key : String} {v : Value} (hread : ReadsBack repeats depth v)
  (hfuel : (compact v).length ≤ fuel) (hrest : Closes rest)
include hread hfuel hrest

theorem member_compact : member repeats (fuel + 1) depth acc
      (key.toList.flatMap escapeChar ++ '"' :: ':' :: (compact v ++ rest)) =
    members repeats fuel depth false (repeats.add acc key v) rest := by
  have hvalue := hread fuel rest hfuel hrest
  have hcolon := skipSpace_cons (show isSpace ':' = false by decide) (compact v ++ rest)
  simp [member, string_escaped, hcolon, hvalue, bind, Except.bind]

theorem members_first : members repeats (fuel + 2) depth true acc
      (quote key ++ ':' :: (compact v ++ rest)) =
    members repeats fuel depth false (repeats.add acc key v) rest := by
  rw [quote_append, members, skipSpace_cons (by decide)]
  simp [member_compact hread hfuel hrest]

theorem members_next : members repeats (fuel + 2) depth false acc
      (',' :: (quote key ++ ':' :: (compact v ++ rest))) =
    members repeats fuel depth false (repeats.add acc key v) rest := by
  have hquote := skipSpace_cons (show isSpace '"' = false by decide)
    (key.toList.flatMap escapeChar ++ '"' :: ':' :: (compact v ++ rest))
  rw [quote_append, members, skipSpace_cons (by decide)]
  simp [hquote, member_compact hread hfuel hrest]

end Members

/-- A key that has not come yet goes to the end, whatever becomes of those that come again. -/
theorem Repeats.add_of_not_mem (repeats : Repeats) {ms : Members Value} {key : String}
    (h : key ∉ ms.keys) (v : Value) : repeats.add ms key v = ms ++ [(key, v)] := by
  cases repeats with
  | merged => exact Members.put_of_not_mem h v
  | kept => rfl

theorem members_compactMembers {ms : Members Value} (hread : ∀ m ∈ ms, ReadsBack repeats depth m.2)
    {acc : Members Value} (hkeys : (acc ++ ms).keys.Nodup)
    (hfuel : (compactMembers ms).length ≤ fuel) :
    members repeats fuel depth false acc (compactMembers ms ++ rest) =
      .ok (.object (acc ++ ms), rest) := by
  induction ms generalizing fuel acc with
  | nil =>
    obtain ⟨fuel, rfl⟩ := Nat.exists_eq_add_one.mpr hfuel
    rw [compactMembers, List.singleton_append, members, skipSpace_cons (by decide)]
    simp
  | cons m ms ih =>
    obtain ⟨key, v⟩ := m
    have hv : ReadsBack repeats depth v := hread (key, v) List.mem_cons_self
    have hnew : key ∉ acc.keys := by
      intro hmem
      rw [Members.keys, List.map_append, List.nodup_append] at hkeys
      exact hkeys.2.2 key hmem key (by simp) rfl
    have hkeys : ((acc ++ [(key, v)]) ++ ms).keys.Nodup := by
      rwa [List.append_assoc, List.singleton_append]
    simp only [compactMembers, List.length_cons, List.length_append] at hfuel
    obtain ⟨fuel, rfl⟩ : ∃ k, fuel = k + 2 := ⟨fuel - 2, by omega⟩
    rw [compactMembers, List.cons_append, List.append_assoc, List.cons_append, List.append_assoc,
      members_next hv (by omega) (closes_compactMembers ms rest),
      repeats.add_of_not_mem hnew, ih (fun m hm => hread m (by simp [hm])) hkeys (by omega),
      List.append_assoc, List.singleton_append]

theorem value_bracket (r : List Char) :
    value repeats (fuel + 1) (depth + 1) ('[' :: r) = items repeats fuel depth true [] r := by
  rw [value, skipSpace_cons (by decide)]
  simp

theorem value_brace (r : List Char) :
    value repeats (fuel + 1) (depth + 1) ('{' :: r) = members repeats fuel depth true [] r := by
  rw [value, skipSpace_cons (by decide)]
  simp

theorem readsBack_array {vs : List Value} (hvs : ∀ v ∈ vs, v.Plain depth)
    (hread : ∀ v ∈ vs, ReadsBack repeats depth v) : ReadsBack repeats (depth + 1) (.array vs) := by
  intro fuel rest hfuel hrest
  cases vs with
  | nil =>
    rw [compact, List.length_cons, List.length_singleton] at hfuel
    obtain ⟨fuel, rfl⟩ := Nat.exists_eq_add_of_le' hfuel
    rw [compact, List.cons_append, List.singleton_append, value_bracket, items,
      skipSpace_cons (by decide)]
    simp
  | cons v vs =>
    obtain ⟨hv, hvs⟩ := List.forall_mem_cons.mp hvs
    obtain ⟨hreadv, hread⟩ := List.forall_mem_cons.mp hread
    have hpos : 0 < (compact v).length := hv.length_compact_pos
    have hposItems : 0 < (compactItems vs).length := length_compactItems_pos vs
    rw [compact, List.length_cons, List.length_append] at hfuel
    obtain ⟨fuel, rfl⟩ : ∃ k, fuel = k + 2 := Nat.exists_eq_add_of_le' (by omega)
    rw [compact, List.cons_append, List.append_assoc, value_bracket,
      items_first hv hreadv (by omega) (closes_compactItems vs rest),
      items_compactItems hvs hread (by omega)]
    rfl

theorem readsBack_object {ms : Members Value} (hread : ∀ m ∈ ms, ReadsBack repeats depth m.2)
    (hkeys : ms.keys.Nodup) : ReadsBack repeats (depth + 1) (.object ms) := by
  intro fuel rest hfuel hrest
  cases ms with
  | nil =>
    rw [compact, List.length_cons, List.length_singleton] at hfuel
    obtain ⟨fuel, rfl⟩ := Nat.exists_eq_add_of_le' hfuel
    rw [compact, List.cons_append, List.singleton_append, value_brace, members,
      skipSpace_cons (by decide)]
    simp
  | cons m ms =>
    obtain ⟨key, v⟩ := m
    obtain ⟨hreadv, hread⟩ : ReadsBack repeats depth v ∧ ∀ m ∈ ms, ReadsBack repeats depth m.2 :=
      List.forall_mem_cons.mp hread
    have hposMembers : 0 < (compactMembers ms).length := length_compactMembers_pos ms
    have hposKey : 0 < (quote key).length := by simp [quote]
    simp only [compact, List.length_cons, List.length_append] at hfuel
    obtain ⟨fuel, rfl⟩ : ∃ k, fuel = k + 3 := Nat.exists_eq_add_of_le' (by omega)
    have hnew : key ∉ Members.keys ([] : Members Value) := List.not_mem_nil
    rw [compact, List.cons_append, List.append_assoc, List.cons_append, List.append_assoc, value_brace,
      members_first hreadv (by omega) (closes_compactMembers ms rest), repeats.add_of_not_mem hnew,
      members_compactMembers hread hkeys (by omega)]
    rfl

/-- A value is read back from its written form, of which its readers take all and nothing behind it. -/
theorem Value.Plain.readsBack {v : Value} (hplain : v.Plain depth) (hdistinct : v.Distinct) :
    ReadsBack repeats depth v := by
  induction hplain with
  | null =>
    refine readsBack_of_step .null fun fuel rest _ => ?_
    simp [compact, value, skipSpace_cons, isSpace, literal]
  | bool b =>
    refine readsBack_of_step (.bool b) fun fuel rest _ => ?_
    cases b <;> simp [compact, value, skipSpace_cons, isSpace, literal]
  | int hlow hhigh =>
    exact readsBack_of_step (.int hlow hhigh) fun fuel rest hrest => value_toString hlow hhigh hrest
  | string s => exact readsBack_of_step (.string s) fun fuel rest _ => value_quote s
  | array hvs ih =>
    cases hdistinct with
    | array hdistinct => exact readsBack_array hvs fun v hv => ih v hv (hdistinct v hv)
  | object hms ih =>
    cases hdistinct with
    | object hkeys hdistinct => exact readsBack_object (fun m hm => ih m hm (hdistinct m hm)) hkeys

end Reads

/-- The compact text of a value is read as that value. -/
theorem document_compact (repeats : Repeats) {v : Value} (hplain : v.Plain depthLimit)
    (hdistinct : v.Distinct) : document repeats (compact v) = .ok v := by
  have hback : ReadsBack repeats depthLimit v := hplain.readsBack hdistinct
  have hread := hback (3 * (compact v).length + 3) [] (by omega) (by simp [Closes])
  rw [List.append_nil] at hread
  simp [document, hread, bind, Except.bind, skipSpace]

theorem parse_text {v : Value} (hplain : v.Plain depthLimit) (hdistinct : v.Distinct) :
    parse v.text = .ok v := by
  rw [parse, Value.text, String.toList_ofList, document_compact .merged hplain hdistinct]
  rfl

end ApiToolbox.Json
