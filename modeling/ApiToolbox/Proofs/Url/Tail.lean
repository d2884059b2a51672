import ApiToolbox.Proofs.Url.Web

/-! What stands behind the authority of a web address: path, query and fragment. They are read again as
they are written, and what is put behind an address comes to stand in the last of them. -/

namespace ApiToolbox.Url

/-! ### Reading -/

/-- Whatever kind of address is read, its query and fragment are cut off behind the scheme. -/
theorem exists_cutTail_of_parse {input : String} {u : Url} (h : parse input = .ok u) :
    ∃ rest, scheme? (clean input.toList) = some (u.scheme, rest) ∧
      (u.query, u.fragment) = (cutTail (isSpecialScheme u.scheme) rest).2 := by
  unfold parse at h
  split at h
  · cases h
  · next scheme rest hscheme =>
    simp only at h
    split at h
    · simp only [bind_eq_ok_iff] at h
      obtain ⟨parts, -, h⟩ := h
      obtain rfl := Except.ok.inj h
      exact ⟨rest, hscheme, rfl⟩
    · split at h
      · simp only [bind_eq_ok_iff] at h
        obtain ⟨a, -, h⟩ := h
        obtain rfl := Except.ok.inj h
        exact ⟨rest, hscheme, rfl⟩
      · split at h <;> obtain rfl := Except.ok.inj h <;> exact ⟨rest, hscheme, rfl⟩

theorem resolveSegments_ne_nil {segments : List String} (hne : segments ≠ []) (built : List String) :
    resolveSegments built segments ≠ [] := by
  induction segments generalizing built with
  | nil => exact absurd rfl hne
  | cons s rest ih =>
    cases rest with
    | nil =>
      cases hs : isDot s with
      | false => simp [resolveSegments, addSegment_of_not_isDot hs]
      | true =>
        obtain ⟨kept, -, hadd⟩ := addSegment_of_isDot hs built true
        simp [resolveSegments, hadd]
    | cons t rest => exact ih (by simp) (addSegment built s false)

theorem pathSegments_ne_nil (special : Bool) (cs : List Char) : pathSegments special cs ≠ [] :=
  resolveSegments_ne_nil (by simp [Text.splitOn_ne_nil]) []

/-! ### Characters -/

/-- A query as it stands in a web address that has been read. -/
def IsQuery (q : String) : Prop := ∀ c ∈ q.toList, keepInQuery true c = true

/-- A fragment as it stands in an address that has been read. -/
def IsFragment (f : String) : Prop := ∀ c ∈ f.toList, keepInFragment c = true

theorem isQuery_percentEncode (cs : List Char) :
    IsQuery (String.ofList (percentEncode (keepInQuery true) cs)) := by
  intro c hc
  rw [String.toList_ofList] at hc
  exact forall_mem_percentEncode (by decide) (fun _ h => h) cs c hc

theorem isFragment_percentEncode (cs : List Char) :
    IsFragment (String.ofList (percentEncode keepInFragment cs)) := by
  intro c hc
  rw [String.toList_ofList] at hc
  exact forall_mem_percentEncode (by decide) (fun _ h => h) cs c hc

/-- The printable characters but the space are not low. -/
theorem not_isLow_of_isPrintable {c : Char} (h : isPrintable c = true) (hspace : c ≠ ' ') :
    isLow c = false :=
  Text.forall_ascii (P := fun c => isPrintable c = true → c ≠ ' ' → isLow c = false)
    (by decide +kernel) (lt_of_isPrintable h) h hspace

theorem cases_of_keepInQuery {c : Char} (h : keepInQuery true c = true) :
    isLow c = false ∧ c ≠ '#' := by
  simp only [keepInQuery, Bool.and_eq_true] at h
  refine ⟨not_isLow_of_isPrintable h.1.1 ?_, ?_⟩ <;> rintro rfl <;> simp at h

theorem not_isLow_of_keepInFragment {c : Char} (h : keepInFragment c = true) : isLow c = false := by
  simp only [keepInFragment, Bool.and_eq_true] at h
  refine not_isLow_of_isPrintable h.1 ?_
  rintro rfl
  simp at h

theorem isQuery_cutTail (rest : List Char) : ∀ q ∈ (cutTail true rest).2.1, IsQuery q := by
  unfold cutTail
  cases Text.cutAt? '#' rest with
  | none =>
    simp only
    cases Text.cutAt? '?' rest with
    | none => simp
    | some cut => simpa using isQuery_percentEncode cut.2
  | some front =>
    simp only
    cases Text.cutAt? '?' front.1 with
    | none => simp
    | some cut => simpa using isQuery_percentEncode cut.2

theorem isFragment_cutTail (rest : List Char) : ∀ f ∈ (cutTail true rest).2.2, IsFragment f := by
  unfold cutTail
  cases Text.cutAt? '#' rest with
  | none =>
    simp only
    cases Text.cutAt? '?' rest <;> simp
  | some cut =>
    have hfragment := isFragment_percentEncode cut.2
    simp only
    cases Text.cutAt? '?' cut.1 <;> simpa using hfragment

/-! ### Reading again -/

/-- Path, query and fragment as they stand in a web address that has been read. -/
structure IsRead (u : Url) : Prop where
  path : ∃ parts, u.path = .segments parts ∧ parts ≠ [] ∧ ∀ s ∈ parts, IsSegment s ∧ isDot s = false
  query : ∀ q ∈ u.query, IsQuery q
  fragment : ∀ f ∈ u.fragment, IsFragment f

theorem isRead_of_parse {given : String} {u : Url} (h : parse given = .ok u)
    (hs : IsWebScheme u.scheme) : u.IsRead := by
  obtain ⟨_, _, -, -, cs, hpath⟩ := cases_of_parse h hs
  obtain ⟨rest, -, htail⟩ := exists_cutTail_of_parse h
  rw [hs.isSpecial] at htail
  obtain ⟨hquery, hfragment⟩ := Prod.mk.inj htail
  refine ⟨⟨_, hpath, pathSegments_ne_nil true cs, fun s hs => ?_⟩, ?_, ?_⟩
  · exact ⟨isSegment_of_mem_pathSegments cs s hs, not_isDot_of_mem_pathSegments cs s hs⟩
  · rw [hquery]
    exact isQuery_cutTail rest
  · rw [hfragment]
    exact isFragment_cutTail rest

theorem cutTail_query {special : Bool} {q : String} (hhash : '#' ∉ q.toList)
    (hkeep : ∀ c ∈ q.toList, keepInQuery special c = true) :
    cutTail special ('?' :: q.toList) = ([], some q, none) := by
  have hnone : Text.cutAt? '#' ('?' :: q.toList) = none :=
    Text.cutAt?_of_not_mem (by simpa using hhash)
  unfold cutTail
  rw [hnone]
  simp [Text.cutAt?, percentEncode_eq_self hkeep]

/-- A fragment behind a text without one. -/
theorem cutTail_fragment (special : Bool) {cs : List Char} (hhash : '#' ∉ cs) {f : String}
    (hf : IsFragment f) : cutTail special (cs ++ '#' :: f.toList) =
      ((cutTail special cs).1, (cutTail special cs).2.1, some f) := by
  unfold cutTail
  rw [Text.cutAt?_append_cons hhash, Text.cutAt?_of_not_mem hhash]
  simp only [percentEncode_eq_self hf, String.ofList_toList]
  cases Text.cutAt? '?' cs <;> rfl

section IsRead

variable {u : Url} (h : u.IsRead)

include h

theorem IsRead.not_isLow : ∀ c ∈ u.tail, isLow c = false := by
  obtain ⟨parts, hpath, -, hparts⟩ := h.path
  intro c hc
  simp only [tail, hpath, toList_text_segments, List.mem_append] at hc
  rcases hc with (hc | hc) | hc
  · exact forall_mem_slashed (p := (isLow · = false)) (by decide)
      (fun s hs d hd => (cases_of_isSegmentChar ((hparts s hs).1 d hd)).1) c hc
  · cases hquery : u.query with
    | none => simp [hquery] at hc
    | some q =>
      rcases List.mem_cons.mp (by simpa [hquery] using hc) with rfl | hc
      · decide
      · exact (cases_of_keepInQuery (h.query q hquery c hc)).1
  · cases hfragment : u.fragment with
    | none => simp [hfragment] at hc
    | some f =>
      rcases List.mem_cons.mp (by simpa [hfragment] using hc) with rfl | hc
      · decide
      · exact not_isLow_of_keepInFragment (h.fragment f hfragment c hc)

theorem IsRead.cutTail : cutTail true u.tail = (u.path.text.toList, u.query, u.fragment) := by
  obtain ⟨parts, hpath, -, hparts⟩ := h.path
  have hsafe : ∀ c ∈ u.path.text.toList, c ≠ '?' ∧ c ≠ '#' := by
    rw [hpath, toList_text_segments]
    exact forall_mem_slashed (by decide) fun s hs c hc =>
      (cases_of_isSegmentChar ((hparts s hs).1 c hc)).2
  have hquestion : '?' ∉ u.path.text.toList := fun hc => (hsafe _ hc).1 rfl
  have hhash : '#' ∉ u.path.text.toList := fun hc => (hsafe _ hc).2 rfl
  have hnil : Url.cutTail true [] = ([], none, none) := rfl
  have hfront : Url.cutTail true ((u.query.map fun q => '?' :: q.toList).getD []) =
      ([], u.query, none) ∧ '#' ∉ (u.query.map fun q => '?' :: q.toList).getD [] := by
    cases hquery : u.query with
    | none => exact ⟨hnil, by simp⟩
    | some q =>
      have hq := h.query q hquery
      have hmark : '#' ∉ q.toList := fun hc => (cases_of_keepInQuery (hq _ hc)).2 rfl
      exact ⟨cutTail_query hmark hq, by simpa using hmark⟩
  rw [tail, List.append_assoc, cutTail_append true hquestion hhash]
  cases hfragment : u.fragment with
  | none => simp [hfront.1]
  | some f => simp [cutTail_fragment true hfront.2 (h.fragment f hfragment), hfront.1]

/-- Behind another authority the rest of an address is read as it was. -/
theorem IsRead.web_tail (scheme : String) (a : Authority) :
    web scheme a (cleanEnd u.tail) = ⟨scheme, some a, u.path, u.query, u.fragment⟩ := by
  obtain ⟨parts, hpath, hne, hparts⟩ := h.path
  have hresolve : pathSegments true (u.path.text.toList.drop 1) = parts := by
    rw [hpath, toList_text_segments, pathSegments_slashed hne fun s hs => (hparts s hs).1,
      resolveSegments_of_forall fun s hs => (hparts s hs).2]
    rfl
  rw [cleanEnd_eq_self h.not_isLow, web, h.cutTail]
  simp only
  rw [hresolve, hpath]

end IsRead

end ApiToolbox.Url
