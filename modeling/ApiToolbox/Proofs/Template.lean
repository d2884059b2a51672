import ApiToolbox.Proofs.Text.Pieces
import ApiToolbox.Template
import Mathlib.Data.List.Nodup

/-! Templates in parts: literal texts and placeholders. Scanning a template finds its placeholders, and
filling in one of them leaves all other parts as they are. -/

namespace ApiToolbox.Template

/-- A part of a template. -/
inductive Part where
  | literal (text : String)
  | slot (name : String)
  deriving DecidableEq, Repr

namespace Part

/-- How a part stands in a template. -/
def source : Part → List Char
  | literal text => text.toList
  | slot name => placeholder name

/-- How a part stands once all placeholders have their texts. -/
def text (texts : String → List Char) : Part → List Char
  | literal text => text.toList
  | slot name => texts name

/-- How a part stands once the placeholders of some names have their texts. -/
def filled (texts : String → List Char) (done : List String) : Part → List Char
  | literal text => text.toList
  | slot name => if name ∈ done then texts name else placeholder name

def name? : Part → Option String
  | literal _ => none
  | slot name => some name

/-- A literal without opening braces, or a placeholder whose name is not empty and has no braces. -/
def IsPlain : Part → Prop
  | literal text => '{' ∉ text.toList
  | slot name => name ≠ "" ∧ '{' ∉ name.toList ∧ '}' ∉ name.toList

end Part

/-- The names of the placeholders among parts. -/
def slots (parts : List Part) : List String := parts.filterMap Part.name?

@[simp] theorem slots_nil : slots [] = [] := rfl

@[simp] theorem slots_literal (text : String) (parts : List Part) :
    slots (.literal text :: parts) = slots parts := rfl

@[simp] theorem slots_slot (name : String) (parts : List Part) :
    slots (.slot name :: parts) = name :: slots parts := rfl

/-- Parts that can be told apart where they stand. Only a pair of braces with nothing in it, and an opening
brace that is never closed, may be literal. -/
inductive Legible : List Part → Prop where
  | nil : Legible []
  | unclosed {text : String} (h : '}' ∉ text.toList) : Legible [.literal text]
  | braces {rest : List Part} (hrest : Legible rest) : Legible (.literal "\x7b\x7d" :: rest)
  | literal {text : String} {rest : List Part} (h : '{' ∉ text.toList) (hrest : Legible rest) :
      Legible (.literal text :: rest)
  | slot {name : String} {rest : List Part} (h : (Part.slot name).IsPlain) (hrest : Legible rest) :
      Legible (.slot name :: rest)

theorem legible_of_isPlain {parts : List Part} (h : ∀ part ∈ parts, part.IsPlain) : Legible parts := by
  induction parts with
  | nil => exact .nil
  | cons part rest ih =>
    have hpart := h part (by simp)
    have hrest := ih fun q hq => h q (by simp [hq])
    cases part with
    | literal text => exact .literal hpart hrest
    | slot name => exact .slot hpart hrest

theorem Legible.isPlain_of_mem {parts : List Part} (h : Legible parts) {name : String}
    (hname : name ∈ slots parts) : (Part.slot name).IsPlain := by
  induction h with
  | nil => cases hname
  | unclosed _ => cases hname
  | braces _ ih => exact ih hname
  | literal _ _ ih => exact ih hname
  | slot hplain _ ih =>
    rcases List.mem_cons.mp hname with rfl | hname
    · exact hplain
    · exact ih hname

/-! ### Scanning -/

theorem scan_append {as : List Char} (h : '{' ∉ as) (bs : List Char) :
    scan none (as ++ bs) = scan none bs := by
  induction as with
  | nil => rfl
  | cons c r ih =>
    simp only [List.mem_cons, not_or] at h
    rw [List.cons_append, scan, if_neg (Ne.symm h.1), ih h.2]

theorem scan_name (acc : List Char) {as : List Char} (h : '}' ∉ as) (bs : List Char) :
    scan (some acc) (as ++ '}' :: bs) =
      if acc.reverse ++ as = [] then scan none bs else (acc.reverse ++ as) :: scan none bs := by
  induction as generalizing acc with
  | nil => simp [scan]
  | cons c r ih =>
    simp only [List.mem_cons, not_or] at h
    rw [List.cons_append, scan, if_neg (Ne.symm h.1), ih _ h.2]
    simp

theorem scan_placeholder {name : String} (hne : name ≠ "") (h : '}' ∉ name.toList) (bs : List Char) :
    scan none (placeholder name ++ bs) = name.toList :: scan none bs := by
  have hlist : name.toList ≠ [] := by simpa using hne
  have hname := scan_name [] h bs
  simp only [List.reverse_nil, List.nil_append, hlist, if_false] at hname
  simpa [placeholder, scan] using hname

theorem scan_source {parts : List Part} (h : ∀ part ∈ parts, part.IsPlain) :
    scan none (parts.flatMap Part.source) = (slots parts).map String.toList := by
  induction parts with
  | nil => rfl
  | cons part rest ih =>
    have ih := ih fun q hq => h q (by simp [hq])
    have hpart := h part (by simp)
    rw [List.flatMap_cons]
    cases part with
    | literal text => rw [Part.source, scan_append hpart, ih, slots_literal]
    | slot name => rw [Part.source, scan_placeholder hpart.1 hpart.2.2, ih, slots_slot, List.map_cons]

theorem placeholders_source {parts : List Part} (h : ∀ part ∈ parts, part.IsPlain) :
    placeholders (String.ofList (parts.flatMap Part.source)) = slots parts := by
  rw [placeholders, String.toList_ofList, scan_source h, List.map_map]
  exact (List.map_congr_left fun name _ => String.ofList_toList).trans (List.map_id' _)

/-! ### Filling -/

theorem fillFirst_append (name : String) (text : List Char) {as : List Char} (h : '{' ∉ as)
    (bs : List Char) : fillFirst name text (as ++ bs) = as ++ fillFirst name text bs := by
  induction as with
  | nil => rfl
  | cons c r ih =>
    simp only [List.mem_cons, not_or] at h
    rw [List.cons_append, fillFirst, Text.replaceFirst_cons, ← fillFirst, ih h.2, List.cons_append]
    intro rest heq
    exact h.1 (List.cons.inj heq).1.symm

theorem fillFirst_placeholder (name : String) (text bs : List Char) :
    fillFirst name text (placeholder name ++ bs) = text ++ bs :=
  Text.replaceFirst_append_self (by simp [placeholder]) text bs

/-- A placeholder in front of a text is cut off at its closing brace. -/
theorem placeholder_append_inj {name other : String} (hname : '}' ∉ name.toList)
    (hother : '}' ∉ other.toList) {as bs : List Char}
    (h : placeholder name ++ as = placeholder other ++ bs) : name = other ∧ as = bs := by
  have hcut : Text.cutAt? '}' (name.toList ++ '}' :: as) =
      Text.cutAt? '}' (other.toList ++ '}' :: bs) := by
    simpa [placeholder] using congrArg (Text.cutAt? '}' ·.tail) h
  rw [Text.cutAt?_append_cons hname, Text.cutAt?_append_cons hother] at hcut
  obtain ⟨hnames, hrest⟩ := Prod.mk.inj (Option.some.inj hcut)
  exact ⟨String.toList_inj.mp hnames, hrest⟩

theorem fillFirst_placeholder_of_ne {name other : String} (hne : other ≠ name)
    (hbrace : '{' ∉ other.toList) (hother : '}' ∉ other.toList) (hname : '}' ∉ name.toList)
    (text bs : List Char) :
    fillFirst name text (placeholder other ++ bs) = placeholder other ++ fillFirst name text bs := by
  have hmiss : ∀ rest, '{' :: (other.toList ++ '}' :: bs) ≠ placeholder name ++ rest := by
    intro rest heq
    exact hne (placeholder_append_inj hother hname (by simpa [placeholder] using heq)).1
  have hrest : '{' ∉ other.toList ++ ['}'] := by simpa using hbrace
  calc fillFirst name text (placeholder other ++ bs)
      = fillFirst name text ('{' :: (other.toList ++ '}' :: bs)) := by simp [placeholder]
    _ = '{' :: fillFirst name text ((other.toList ++ ['}']) ++ bs) := by
        rw [fillFirst, Text.replaceFirst_cons hmiss, ← fillFirst]
        simp
    _ = placeholder other ++ fillFirst name text bs := by
        rw [fillFirst_append name text hrest]
        simp [placeholder]

theorem fillFirst_of_not_mem (name : String) (text : List Char) {cs : List Char} (h : '}' ∉ cs) :
    fillFirst name text cs = cs := by
  induction cs with
  | nil => rfl
  | cons c r ih =>
    have hmiss : ∀ rest, c :: r ≠ placeholder name ++ rest := by
      intro rest heq
      refine h ?_
      rw [heq]
      simp [placeholder]
    rw [fillFirst, Text.replaceFirst_cons hmiss, ← fillFirst, ih fun hr => h (List.mem_cons_of_mem c hr)]

theorem fillFirst_braces {name : String} (hne : name ≠ "") (hname : '}' ∉ name.toList)
    (text bs : List Char) :
    fillFirst name text ('{' :: '}' :: bs) = '{' :: '}' :: fillFirst name text bs := by
  have hmiss : ∀ rest, '{' :: '}' :: bs ≠ placeholder name ++ rest := by
    intro rest heq
    obtain ⟨c, r, hc⟩ := List.exists_cons_of_ne_nil (show name.toList ≠ [] by simpa using hne)
    obtain ⟨rfl, -⟩ : '}' = c ∧ bs = r ++ '}' :: rest := by
      simpa [placeholder, hc] using (List.cons.inj heq).2
    exact hname (hc ▸ List.mem_cons_self)
  have hrest : fillFirst name text (['}'] ++ bs) = ['}'] ++ fillFirst name text bs :=
    fillFirst_append name text (by simp) bs
  rw [List.singleton_append] at hrest
  rw [fillFirst, Text.replaceFirst_cons hmiss, ← fillFirst, hrest, List.singleton_append]

/-- The parts with their placeholders filled in as long as their names last: a name is used up by the
first of its placeholders. -/
def fillEach (texts : String → List Char) : List String → List Part → List Char
  | _, [] => []
  | names, part :: rest =>
    part.filled texts names ++ fillEach texts (part.name?.elim names names.erase) rest

section FillEach

variable {texts : String → List Char} {name : String} {names : List String} {parts : List Part}

@[simp] theorem fillEach_nil (names : List String) : fillEach texts names [] = [] := rfl

@[simp] theorem fillEach_literal (names : List String) (text : String) (parts : List Part) :
    fillEach texts names (.literal text :: parts) = text.toList ++ fillEach texts names parts := rfl

theorem fillEach_of_mem (h : name ∈ names) (parts : List Part) :
    fillEach texts names (.slot name :: parts) =
      texts name ++ fillEach texts (names.erase name) parts := by
  rw [fillEach, Part.filled, if_pos h]
  rfl

theorem fillEach_of_not_mem (h : name ∉ names) (parts : List Part) :
    fillEach texts names (.slot name :: parts) = placeholder name ++ fillEach texts names parts := by
  rw [fillEach, Part.filled, if_neg h, Part.name?, Option.elim_some, List.erase_of_not_mem h]

theorem fillEach_no_names (texts : String → List Char) (parts : List Part) :
    fillEach texts [] parts = parts.flatMap Part.source := by
  induction parts with
  | nil => rfl
  | cons part rest ih =>
    cases part with
    | literal text => rw [fillEach_literal, ih, List.flatMap_cons, Part.source]
    | slot name => rw [fillEach_of_not_mem (by simp), ih, List.flatMap_cons, Part.source]

/-- The order of the names does not matter, only how often each is there. -/
theorem fillEach_perm {names' : List String} (h : names.Perm names') (parts : List Part) :
    fillEach texts names parts = fillEach texts names' parts := by
  induction parts generalizing names names' with
  | nil => rfl
  | cons part rest ih =>
    cases part with
    | literal text => rw [fillEach_literal, fillEach_literal, ih h]
    | slot name =>
      by_cases hmem : name ∈ names
      · rw [fillEach_of_mem hmem, fillEach_of_mem (h.mem_iff.mp hmem), ih (h.erase name)]
      · rw [fillEach_of_not_mem hmem, fillEach_of_not_mem (mt h.mem_iff.mpr hmem), ih h]

/-- Filling in a name once more fills in the first of its placeholders that are left, and nothing else, if
no text has an opening brace. -/
theorem fillFirst_fillEach (htexts : ∀ n, '{' ∉ texts n) (hparts : Legible parts) (hne : name ≠ "")
    (hname : '}' ∉ name.toList) (names : List String) :
    fillFirst name (texts name) (fillEach texts names parts) = fillEach texts (name :: names) parts := by
  induction hparts generalizing names with
  | nil => rfl
  | unclosed htext =>
    rw [fillEach_literal, fillEach_literal, fillEach_nil, fillEach_nil, List.append_nil,
      fillFirst_of_not_mem _ _ htext]
  | braces _ ih =>
    rw [fillEach_literal, fillEach_literal, ← ih]
    exact fillFirst_braces hne hname _ _
  | literal htext _ ih =>
    rw [fillEach_literal, fillEach_literal, fillFirst_append _ _ htext, ih]
  | @slot other rest hplain _ ih =>
    by_cases hmem : other ∈ names
    · rw [fillEach_of_mem hmem, fillEach_of_mem (List.mem_cons_of_mem _ hmem),
        fillFirst_append _ _ (htexts other), ih]
      by_cases heq : name = other
      · subst heq
        rw [List.erase_cons_head, fillEach_perm (List.perm_cons_erase hmem).symm]
      · rw [List.erase_cons_tail (by simpa using heq)]
    · by_cases heq : other = name
      · subst heq
        rw [fillEach_of_not_mem hmem, fillFirst_placeholder, fillEach_of_mem List.mem_cons_self,
          List.erase_cons_head]
      · rw [fillEach_of_not_mem hmem, fillEach_of_not_mem (by simp [heq, hmem]),
          fillFirst_placeholder_of_ne heq hplain.2.1 hplain.2.2 hname, ih]

/-! A placeholder that is left is seen by its brace. -/

theorem count_text_le (htexts : ∀ n, '{' ∉ texts n) (names : List String) (parts : List Part) :
    (parts.flatMap (Part.text texts)).count '{' ≤ (fillEach texts names parts).count '{' := by
  induction parts generalizing names with
  | nil => simp
  | cons part rest ih =>
    rw [List.flatMap_cons, List.count_append]
    cases part with
    | literal text =>
      rw [fillEach_literal, List.count_append, Part.text]
      exact Nat.add_le_add_left (ih names) _
    | slot name =>
      rw [Part.text, List.count_eq_zero_of_not_mem (htexts name), Nat.zero_add]
      by_cases hmem : name ∈ names
      · rw [fillEach_of_mem hmem, List.count_append]
        exact Nat.le_add_left_of_le (ih _)
      · rw [fillEach_of_not_mem hmem, List.count_append]
        exact Nat.le_add_left_of_le (ih names)

/-- All placeholders are filled in exactly when no name runs out. -/
theorem fillEach_eq_iff (htexts : ∀ n, '{' ∉ texts n) (names : List String) (parts : List Part) :
    fillEach texts names parts = parts.flatMap (Part.text texts) ↔
      ∀ n, (slots parts).count n ≤ names.count n := by
  induction parts generalizing names with
  | nil => simp
  | cons part rest ih =>
    rw [List.flatMap_cons]
    cases part with
    | literal text => rw [fillEach_literal, Part.text, List.append_cancel_left_eq, ih, slots_literal]
    | slot name =>
      by_cases hmem : name ∈ names
      · rw [fillEach_of_mem hmem, Part.text, List.append_cancel_left_eq, ih, slots_slot]
        have hpos := List.count_pos_iff.mpr hmem
        refine forall_congr' fun n => ?_
        rw [List.count_erase, List.count_cons]
        by_cases hn : name = n
        · subst hn
          simp
          omega
        · simp [hn]
      · have hnone := List.count_eq_zero_of_not_mem hmem
        constructor
        · intro heq
          have hcount := congrArg (List.count '{') heq
          have hle := count_text_le htexts names rest
          rw [fillEach_of_not_mem hmem, Part.text, List.count_append, List.count_append,
            List.count_eq_zero_of_not_mem (htexts name), placeholder, List.count_cons_self] at hcount
          omega
        · intro hcounts
          have hone := hcounts name
          rw [slots_slot, List.count_cons_self, hnone] at hone
          omega

theorem fillEach_eq_of_nodup (htexts : ∀ n, '{' ∉ texts n) (hnodup : (slots parts).Nodup)
    (hnames : ∀ n ∈ slots parts, n ∈ names) :
    fillEach texts names parts = parts.flatMap (Part.text texts) := by
  rw [fillEach_eq_iff htexts]
  intro n
  by_cases hn : n ∈ slots parts
  · have hpos := List.count_pos_iff.mpr (hnames n hn)
    have hle := List.nodup_iff_count_le_one.mp hnodup n
    omega
  · rw [List.count_eq_zero_of_not_mem hn]
    exact Nat.zero_le _

end FillEach

/-! ### Templates of segments -/

/-- The template of segments: joined by slashes, and with a slash in front if it is rooted. -/
def ofSegments (rooted : Bool) (segments : List Part) : String :=
  String.ofList ((if rooted then ['/'] else []) ++ ['/'].intercalate (segments.map Part.source))

/-- The segments with the slashes as parts of their own. -/
def separated (rooted : Bool) (segments : List Part) : List Part :=
  (if rooted then [.literal "/"] else []) ++ segments.intersperse (.literal "/")

theorem flatMap_intersperse {α β : Type} (f : α → List β) (sep : α) (as : List α) :
    (as.intersperse sep).flatMap f = (f sep).intercalate (as.map f) := by
  induction as with
  | nil => rfl
  | cons a rest ih =>
    cases rest with
    | nil => simp
    | cons b rest =>
      rw [List.intersperse_cons_cons, List.flatMap_cons, List.flatMap_cons, ih]
      simp only [List.map_cons, List.intercalate_cons_cons, List.append_assoc]

theorem flatMap_separated {f : Part → List Char} (h : f (.literal "/") = ['/']) (rooted : Bool)
    (segments : List Part) : (separated rooted segments).flatMap f =
      (if rooted then ['/'] else []) ++ ['/'].intercalate (segments.map f) := by
  rw [separated, List.flatMap_append, flatMap_intersperse, h]
  cases rooted <;> simp [h]

theorem slots_intersperse (text : String) (parts : List Part) :
    slots (parts.intersperse (.literal text)) = slots parts := by
  induction parts with
  | nil => rfl
  | cons part rest ih =>
    cases rest with
    | nil => rfl
    | cons q rest =>
      rw [List.intersperse_cons_cons]
      cases part with
      | literal t => rw [slots_literal, slots_literal, ih, slots_literal]
      | slot name => rw [slots_slot, slots_literal, ih, slots_slot]

theorem slots_separated (rooted : Bool) (segments : List Part) :
    slots (separated rooted segments) = slots segments := by
  cases rooted <;> simp [separated, slots_intersperse]

theorem forall_mem_separated {p : Part → Prop} (hslash : p (.literal "/")) {segments : List Part}
    (h : ∀ part ∈ segments, p part) (rooted : Bool) : ∀ part ∈ separated rooted segments, p part := by
  have hinter : ∀ part ∈ segments.intersperse (.literal "/"), p part := by
    induction segments with
    | nil => simp
    | cons part rest ih =>
      have ih := ih fun q hq => h q (by simp [hq])
      cases rest with
      | nil => simpa using h
      | cons q rest => simpa [hslash, h part (by simp)] using ih
  cases rooted with
  | false => simpa [separated] using hinter
  | true => simpa [separated, hslash] using hinter

end ApiToolbox.Template
