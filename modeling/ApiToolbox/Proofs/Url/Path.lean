import ApiToolbox.Proofs.Text.Pieces
import ApiToolbox.Proofs.Url.Percent
import ApiToolbox.Url
import ApiToolbox.Url.Form

/-! Paths as lists of segments. Resolving removes dot segments and nothing else, and a path that has
been read is read the same way again. -/

namespace ApiToolbox.Url

/-- A segment that resolving takes as a step within the path. -/
def isDot (segment : String) : Bool := isSingleDot segment || isDoubleDot segment

/-- Dots and the signs of their escapes, whatever the case of a letter. -/
theorem cases_of_toLower {c : Char} :
    (c.toLower = '.' → c = '.') ∧ (c.toLower = '%' → c = '%') ∧ (c.toLower = '2' → c = '2') ∧
      (c.toLower = 'e' → c = 'e' ∨ c = 'E') := by
  by_cases hc : c.toNat < 128
  · exact Text.forall_ascii (P := fun c => (c.toLower = '.' → c = '.') ∧ (c.toLower = '%' → c = '%') ∧
      (c.toLower = '2' → c = '2') ∧ (c.toLower = 'e' → c = 'e' ∨ c = 'E')) (by decide +kernel) hc
  · have hne (d : Char) (hd : d.toNat < 128) : c.toLower ≠ d := by
      rintro rfl
      exact hc (Text.toNat_lt_of_toLower hd)
    exact ⟨fun h => absurd h (hne _ (by decide)), fun h => absurd h (hne _ (by decide)),
      fun h => absurd h (hne _ (by decide)), fun h => absurd h (hne _ (by decide))⟩

theorem percentDecode_of_dot {cs r : List Char} (h : cs.map Char.toLower = '.' :: r) :
    ∃ r', r'.map Char.toLower = r ∧ percentDecode cs = 0x2E :: percentDecode r' := by
  obtain ⟨c, r', rfl, hc, hr⟩ := List.map_eq_cons_iff.mp h
  obtain rfl := cases_of_toLower.1 hc
  exact ⟨r', hr, percentDecode_cons (by decide) r'⟩

theorem percentDecode_of_escapedDot {cs r : List Char}
    (h : cs.map Char.toLower = '%' :: '2' :: 'e' :: r) :
    ∃ r', r'.map Char.toLower = r ∧ percentDecode cs = 0x2E :: percentDecode r' := by
  obtain ⟨c, r₁, rfl, hc, h₁⟩ := List.map_eq_cons_iff.mp h
  obtain ⟨d, r₂, rfl, hd, h₂⟩ := List.map_eq_cons_iff.mp h₁
  obtain ⟨e, r₃, rfl, he, h₃⟩ := List.map_eq_cons_iff.mp h₂
  obtain rfl := cases_of_toLower.2.1 hc
  obtain rfl := cases_of_toLower.2.2.1 hd
  refine ⟨r₃, h₃, ?_⟩
  rcases cases_of_toLower.2.2.2 he with rfl | rfl <;> rfl

/-- A dot segment stands for one or two dots, which may be escaped. -/
theorem percentDecode_of_isDot {s : String} (h : isDot s = true) :
    percentDecode s.toList = [0x2E] ∨ percentDecode s.toList = [0x2E, 0x2E] := by
  have hlower (t : String) (ht : Text.asciiLower s = t) : s.toList.map Char.toLower = t.toList := by
    rw [← ht, Text.asciiLower, String.toList_ofList]
  have hnil {r : List Char} (hr : r.map Char.toLower = []) : percentDecode r = [] := by
    rw [List.map_eq_nil_iff.mp hr, percentDecode_nil]
  simp only [isDot, isSingleDot, isDoubleDot, Bool.or_eq_true, decide_eq_true_eq, List.mem_cons,
    List.not_mem_nil, or_false] at h
  rcases h with (h | h) | h | h | h | h
  · obtain ⟨r, hr, hs⟩ := percentDecode_of_dot (hlower _ h)
    exact .inl (by rw [hs, hnil hr])
  · obtain ⟨r, hr, hs⟩ := percentDecode_of_escapedDot (hlower _ h)
    exact .inl (by rw [hs, hnil hr])
  · obtain ⟨r, hr, hs⟩ := percentDecode_of_dot (hlower _ h)
    obtain ⟨r', hr', hs'⟩ := percentDecode_of_dot hr
    exact .inr (by rw [hs, hs', hnil hr'])
  · obtain ⟨r, hr, hs⟩ := percentDecode_of_dot (hlower _ h)
    obtain ⟨r', hr', hs'⟩ := percentDecode_of_escapedDot hr
    exact .inr (by rw [hs, hs', hnil hr'])
  · obtain ⟨r, hr, hs⟩ := percentDecode_of_escapedDot (hlower _ h)
    obtain ⟨r', hr', hs'⟩ := percentDecode_of_dot hr
    exact .inr (by rw [hs, hs', hnil hr'])
  · obtain ⟨r, hr, hs⟩ := percentDecode_of_escapedDot (hlower _ h)
    obtain ⟨r', hr', hs'⟩ := percentDecode_of_escapedDot hr
    exact .inr (by rw [hs, hs', hnil hr'])

/-! ### Resolving -/

theorem addSegment_of_not_isDot {segment : String} (h : isDot segment = false) (built : List String)
    (last : Bool) : addSegment built segment last = segment :: built := by
  simp only [isDot, Bool.or_eq_false_iff] at h
  simp [addSegment, h]

/-- What a dot segment does: it adds nothing, or an empty segment at the end of the path. -/
theorem addSegment_of_isDot {segment : String} (h : isDot segment = true) (built : List String)
    (last : Bool) : ∃ kept, kept <:+ built ∧
      addSegment built segment last = if last then "" :: kept else kept := by
  by_cases hd : isDoubleDot segment = true
  · exact ⟨built.tail, List.tail_suffix built, by simp [addSegment, hd]⟩
  · have hs : isSingleDot segment = true := by simpa [isDot, hd] using h
    exact ⟨built, List.suffix_refl built, by simp [addSegment, hd, hs]⟩

theorem resolveSegments_cons_cons (built : List String) (s t : String) (rest : List String) :
    resolveSegments built (s :: t :: rest) =
      resolveSegments (addSegment built s false) (t :: rest) := rfl

theorem resolveSegments_of_forall {segments : List String} (h : ∀ s ∈ segments, isDot s = false)
    (built : List String) : resolveSegments built segments = built.reverse ++ segments := by
  induction segments generalizing built with
  | nil => simp [resolveSegments]
  | cons s rest ih =>
    have hs := h s (by simp)
    cases rest with
    | nil => simp [resolveSegments, addSegment_of_not_isDot hs]
    | cons t rest =>
      rw [resolveSegments_cons_cons, addSegment_of_not_isDot hs, ih fun x hx => h x (by simp [hx])]
      simp

section Forall

variable {p : String → Prop}

theorem forall_mem_addSegment (hempty : p "") {built : List String} (hb : ∀ s ∈ built, p s)
    {segment : String} (h : isDot segment = false → p segment) (last : Bool) :
    ∀ s ∈ addSegment built segment last, p s := by
  cases hd : isDot segment with
  | false =>
    rw [addSegment_of_not_isDot hd]
    simpa [h hd] using hb
  | true =>
    obtain ⟨kept, hkept, hadd⟩ := addSegment_of_isDot hd built last
    have hall : ∀ s ∈ kept, p s := fun s hs => hb s (hkept.subset hs)
    rw [hadd]
    cases last with
    | false => simpa using hall
    | true => simpa [hempty] using hall

/-- What holds of the empty segment and of all segments but the dot segments holds of what is left. -/
theorem forall_mem_resolveSegments (hempty : p "") {built : List String} (hb : ∀ s ∈ built, p s)
    {segments : List String} (h : ∀ s ∈ segments, isDot s = false → p s) :
    ∀ s ∈ resolveSegments built segments, p s := by
  induction segments generalizing built with
  | nil => simpa [resolveSegments] using hb
  | cons segment rest ih =>
    have hadd := forall_mem_addSegment hempty hb (h segment (by simp))
    cases rest with
    | nil => simpa [resolveSegments] using hadd true
    | cons t rest => exact ih (hadd false) fun s hs => h s (by simp [hs])

end Forall

theorem not_isDot_of_mem_resolveSegments (segments : List String) :
    ∀ s ∈ resolveSegments [] segments, isDot s = false :=
  forall_mem_resolveSegments (p := (isDot · = false)) (by decide) (by simp) fun _ _ h => h

theorem length_addSegment_le (built : List String) (segment : String) (last : Bool) :
    (addSegment built segment last).length ≤ built.length + 1 := by
  cases hd : isDot segment with
  | false => simp [addSegment_of_not_isDot hd]
  | true =>
    obtain ⟨kept, hkept, hadd⟩ := addSegment_of_isDot hd built last
    have hle := hkept.length_le
    rw [hadd]
    split
    · simpa using hle
    · omega

theorem length_resolveSegments_le (built segments : List String) :
    (resolveSegments built segments).length ≤ built.length + segments.length := by
  induction segments generalizing built with
  | nil => simp [resolveSegments]
  | cons s rest ih =>
    cases rest with
    | nil => simpa [resolveSegments] using length_addSegment_le built s true
    | cons t rest =>
      have hadd := length_addSegment_le built s false
      have hrest := ih (addSegment built s false)
      rw [resolveSegments_cons_cons]
      simp only [List.length_cons] at hrest ⊢
      omega

/-- A path that has kept its length and does not end in an empty segment had no dot segments. -/
theorem not_isDot_of_length_resolveSegments {built segments : List String}
    (hlen : (resolveSegments built segments).length = built.length + segments.length)
    (hlast : (resolveSegments built segments).getLast? ≠ some "") :
    ∀ s ∈ segments, isDot s = false := by
  induction segments generalizing built with
  | nil => simp
  | cons s rest ih =>
    cases hd : isDot s with
    | true =>
      obtain ⟨kept, hkept, hadd⟩ := addSegment_of_isDot hd built rest.isEmpty
      have hle := hkept.length_le
      cases rest with
      | nil =>
        have hadd : addSegment built s true = "" :: kept := by simpa using hadd
        simp [resolveSegments, hadd] at hlast
      | cons t rest =>
        -- Inside the path a dot segment takes away at least its own place.
        have hrest := length_resolveSegments_le kept (t :: rest)
        rw [resolveSegments_cons_cons, show addSegment built s false = kept by simpa using hadd] at hlen
        simp only [List.length_cons] at hlen hrest
        omega
    | false =>
      cases rest with
      | nil => simpa using hd
      | cons t rest =>
        rw [resolveSegments_cons_cons, addSegment_of_not_isDot hd] at hlen hlast
        have hsame : (resolveSegments (s :: built) (t :: rest)).length =
            (s :: built).length + (t :: rest).length := by
          simp only [List.length_cons] at hlen ⊢
          omega
        simpa [hd] using ih hsame hlast

/-! ### Segments -/

/-- A character that a segment of a path may be written with. -/
def isSegmentChar (c : Char) : Bool := keepInPath c && c ≠ '/' && c ≠ '\\'

theorem holdsOfEscapes_isSegmentChar : HoldsOfEscapes isSegmentChar := by decide

theorem isSegmentChar_of_isUnreserved {c : Char} (h : isUnreserved c = true) :
    isSegmentChar c = true :=
  Text.forall_ascii (P := fun c => isUnreserved c = true → isSegmentChar c = true)
    (by decide +kernel) (lt_of_isUnreserved h) h

/-- A segment as it stands in a path that has been read. -/
def IsSegment (s : String) : Prop := ∀ c ∈ s.toList, isSegmentChar c = true

theorem IsSegment.keepInPath {s : String} (h : IsSegment s) :
    ∀ c ∈ s.toList, keepInPath c = true := by
  intro c hc
  have := h c hc
  simp only [isSegmentChar, Bool.and_eq_true] at this
  exact this.1.1

theorem IsSegment.not_mem {s : String} (h : IsSegment s) {c : Char} (hc : isSegmentChar c = false) :
    c ∉ s.toList := by
  intro hmem
  simp [h c hmem] at hc

/-- The text of segments, each behind a slash. -/
def slashed (parts : List String) : List Char := parts.flatMap fun part => '/' :: part.toList

@[simp] theorem slashed_nil : slashed [] = [] := rfl

@[simp] theorem slashed_cons (part : String) (parts : List String) :
    slashed (part :: parts) = '/' :: (part.toList ++ slashed parts) := rfl

theorem slashed_append (ps qs : List String) : slashed (ps ++ qs) = slashed ps ++ slashed qs := by
  simp [slashed]

theorem toList_text_segments (parts : List String) :
    (Path.segments parts).text.toList = slashed parts := by
  simp [Path.text, slashed, String.toList_join, List.flatMap_map]

theorem slashed_cons_eq_intercalate (part : String) (parts : List String) :
    slashed (part :: parts) = '/' :: ['/'].intercalate ((part :: parts).map String.toList) := by
  induction parts generalizing part with
  | nil => simp
  | cons q rest ih =>
    rw [slashed_cons, ih]
    simp [List.intercalate_cons_of_ne_nil]

theorem isSegment_of_mem_pathSegments (cs : List Char) : ∀ s ∈ pathSegments true cs, IsSegment s := by
  refine forall_mem_resolveSegments (p := IsSegment) (by simp [IsSegment]) (by simp) ?_
  intro s hs _ c hc
  obtain ⟨piece, hpiece, rfl⟩ := List.mem_map.mp hs
  rw [String.toList_ofList] at hc
  rcases mem_percentEncode hc with ⟨hkeep, hmem⟩ | rfl | ⟨n, hn, rfl⟩
  · obtain ⟨hslash, hc⟩ := Text.mem_of_mem_splitOn hpiece c hmem
    have hback : c ≠ '\\' := by
      rintro rfl
      obtain ⟨d, -, hd⟩ := List.mem_map.mp hc
      split at hd
      · cases hd
      · next hne => exact hne hd
    simp [isSegmentChar, hkeep, hslash, hback]
  · exact holdsOfEscapes_isSegmentChar.1
  · exact holdsOfEscapes_isSegmentChar.2 n hn

/-- Slashes at the end of a path are empty segments at its end. -/
theorem dropEndWhile_slashed {parts : List String} (h : ∀ s ∈ parts, IsSegment s) :
    Text.dropEndWhile (· = '/') (slashed parts) = slashed (parts.rdropWhile (· = "")) := by
  induction parts using List.reverseRecOn with
  | nil => rfl
  | append_singleton rest s ih =>
    have ih := ih fun t ht => h t (by simp [ht])
    rw [slashed_append, slashed_cons, slashed_nil, List.append_nil]
    by_cases hs : s = ""
    · subst hs
      rw [List.rdropWhile_concat_pos _ _ _ (by simp), ← ih]
      exact List.rdropWhile_concat_pos _ _ _ (by simp)
    · have hne : s.toList ≠ [] := by simpa using hs
      have hchar : ∀ c ∈ s.toList, decide (c = '/') = false := by
        intro c hc
        refine decide_eq_false ?_
        rintro rfl
        exact (h s (by simp)).not_mem (by decide) hc
      obtain ⟨c, hc⟩ := List.exists_mem_of_ne_nil _ hne
      rw [List.rdropWhile_concat_neg _ _ _ (by simpa using hs), slashed_append, slashed_cons,
        slashed_nil, List.append_nil, Text.dropEndWhile_append ⟨c, by simp [hc], hchar c hc⟩,
        show '/' :: s.toList = ['/'] ++ s.toList from rfl,
        Text.dropEndWhile_append ⟨c, hc, hchar c hc⟩, Text.dropEndWhile_eq_self hchar]

theorem not_isDot_of_mem_pathSegments (cs : List Char) :
    ∀ s ∈ pathSegments true cs, isDot s = false :=
  not_isDot_of_mem_resolveSegments _

/-- Segments are read as they are written, and then resolved. -/
theorem pathSegments_slashed {parts : List String} (hne : parts ≠ []) (h : ∀ s ∈ parts, IsSegment s) :
    pathSegments true ((slashed parts).drop 1) = resolveSegments [] parts := by
  obtain ⟨part, rest, rfl⟩ := List.exists_cons_of_ne_nil hne
  have hslash : ∀ piece ∈ (part :: rest).map String.toList, '/' ∉ piece := by
    intro piece hpiece
    obtain ⟨s, hs, rfl⟩ := List.mem_map.mp hpiece
    exact (h s hs).not_mem (by decide)
  have hback : ∀ c ∈ ['/'].intercalate ((part :: rest).map String.toList), c ≠ '\\' := by
    refine Text.forall_mem_intercalate (by decide) ?_
    rintro piece hpiece c hc rfl
    obtain ⟨s, hs, rfl⟩ := List.mem_map.mp hpiece
    exact (h s hs).not_mem (by decide) hc
  have hsame : (['/'].intercalate ((part :: rest).map String.toList)).map
      (fun c => if c = '\\' then '/' else c) = ['/'].intercalate ((part :: rest).map String.toList) := by
    refine (List.map_congr_left fun c hc => if_neg (hback c hc)).trans (List.map_id' _)
  have hcode : ((part :: rest).map String.toList).map
      (fun s => String.ofList (percentEncode keepInPath s)) = part :: rest := by
    rw [List.map_map]
    refine (List.map_congr_left fun s hs => ?_).trans (List.map_id' _)
    rw [Function.comp_apply, percentEncode_eq_self (h s hs).keepInPath, String.ofList_toList]
  rw [slashed_cons_eq_intercalate, List.drop_one, List.tail_cons, pathSegments, if_pos rfl, hsame,
    Text.splitOn_intercalate (by simp) hslash, hcode]

/-! ### Escaped values -/

theorem toList_encodeComponent (value : String) :
    (encodeComponent value).toList = percentEncode isUnreserved value.toList := by
  rw [encodeComponent, String.toList_ofList]

theorem percentDecode_encodeComponent (value : String) :
    percentDecode (encodeComponent value).toList = Text.Utf8.encode value.toList := by
  rw [toList_encodeComponent, percentDecode_percentEncode (by decide)]

theorem decode?_encodeComponent (value : String) :
    Text.Utf8.decode? (percentDecode (encodeComponent value).toList) = some value.toList := by
  rw [percentDecode_encodeComponent, Text.Utf8.decode?_encode]

theorem isSegment_encodeComponent (value : String) : IsSegment (encodeComponent value) := by
  intro c hc
  rw [toList_encodeComponent] at hc
  exact forall_mem_percentEncode holdsOfEscapes_isSegmentChar
    (fun _ => isSegmentChar_of_isUnreserved) _ c hc

/-- An escaped text is a dot segment only if it is one or two dots, which are never escaped. -/
theorem isDot_encodeComponent_iff (value : String) :
    isDot (encodeComponent value) = true ↔ value = "." ∨ value = ".." := by
  constructor
  · intro h
    have hvalue (t : String) (ht : Text.Utf8.encode value.toList = Text.Utf8.encode t.toList) :
        value = t := by
      have hdecode := congrArg Text.Utf8.decode? ht
      rw [Text.Utf8.decode?_encode, Text.Utf8.decode?_encode] at hdecode
      exact String.toList_inj.mp (Option.some.inj hdecode)
    have hdots := percentDecode_of_isDot h
    rw [percentDecode_encodeComponent] at hdots
    exact hdots.imp (fun h => hvalue "." (by rw [h]; rfl)) fun h => hvalue ".." (by rw [h]; rfl)
  · rintro (rfl | rfl) <;> decide

theorem not_isDot_of_isUnreserved {s : String} (h : ∀ c ∈ s.toList, isUnreserved c = true)
    (hone : s ≠ ".") (htwo : s ≠ "..") : isDot s = false := by
  have hself : encodeComponent s = s := by
    rw [encodeComponent, percentEncode_eq_self h, String.ofList_toList]
  rw [← Bool.not_eq_true, ← hself, isDot_encodeComponent_iff, not_or]
  exact ⟨hone, htwo⟩

end ApiToolbox.Url
