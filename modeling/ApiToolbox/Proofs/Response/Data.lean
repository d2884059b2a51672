import ApiToolbox.Proofs.Json.Equality
import ApiToolbox.Proofs.Json.Openings
import ApiToolbox.Proofs.Text.Pieces
import ApiToolbox.Response

/-! The value of a response body. It is that of the trimmed text as JSON where the text is to be read so and can
be, and else the trimmed text itself; nothing is null. The media type decides for JSON scalars alone, since what
begins like an object or a list is read as JSON whatever its type. -/

namespace ApiToolbox

open Json (Value)

/-- The text begins like an object or a list once it is trimmed. -/
def looksLikeJson (text : String) : Bool :=
  (Text.trimmed text).toList.head? = some '{' || (Text.trimmed text).toList.head? = some '['

/-- The trimmed text is a JSON document and does not begin like an object or a list. -/
structure IsJsonScalar (text : String) : Prop where
  parses : ∃ v, Json.parse (Text.trimmed text) = .ok v
  looks : looksLikeJson text = false

/-- The ways to the value of a body. -/
inductive ReadsAs (type : Option String) (text : String) : Value → Prop where
  | blank (h : Text.isBlankText text = true) : ReadsAs type text .null
  | parsed {v : Value} (htype : (type.any MediaType.isJson || looksLikeJson text) = true)
      (h : Json.parse (Text.trimmed text) = .ok v) : ReadsAs type text v
  | kept (hblank : Text.isBlankText text = false)
      (h : (type.any MediaType.isJson || looksLikeJson text) = true →
        ∀ v, Json.parse (Text.trimmed text) ≠ .ok v) :
      ReadsAs type text (.string (Text.trimmed text))

variable {type type' : Option String} {text : String} {v : Value}

/-! ### Trimmed texts as JSON -/

theorem Text.isBlank_of_isSpace {c : Char} (h : Json.isSpace c = true) : isBlank c = true := by
  simp only [Json.isSpace, Bool.or_eq_true, decide_eq_true_eq] at h
  rcases h with ((rfl | rfl) | rfl) | rfl <;> decide

theorem Json.skipSpace_trim (cs : List Char) : skipSpace (Text.trim cs) = Text.trim cs := by
  refine Text.dropWhile_eq_self fun c hc => ?_
  cases hspace : isSpace c with
  | false => rfl
  | true =>
    have hblank := Text.head?_trim cs c hc
    rw [Text.isBlank_of_isSpace hspace] at hblank
    cases hblank

/-- White space behind a trimmed text is none. -/
theorem Json.eq_nil_of_skipSpace {cs front rest : List Char} (h : Text.trim cs = front ++ rest)
    (hrest : skipSpace rest = []) : rest = [] := by
  by_contra hne
  have hlast : rest.getLast hne ∈ (Text.trim cs).getLast? := by
    rw [h, List.getLast?_append_of_ne_nil _ hne, List.getLast?_eq_some_getLast hne]
    rfl
  have hspace : isSpace (rest.getLast hne) = true :=
    List.dropWhile_eq_nil_iff.mp hrest _ (List.getLast_mem hne)
  have hblank := Text.getLast?_trim cs _ hlast
  rw [Text.isBlank_of_isSpace hspace] at hblank
  cases hblank

theorem Json.parse_trimmed_eq_null_iff :
    parse (Text.trimmed text) = .ok .null ↔ Text.trimmed text = "null" := by
  constructor
  · intro h
    obtain ⟨rest, hread, hrest⟩ := parse_eq_ok_iff.mp h
    have hskip := skipSpace_of_null hread
    rw [Text.trimmed, String.toList_ofList, skipSpace_trim] at hskip
    rw [Text.trimmed, hskip, eq_nil_of_skipSpace hskip hrest]
    rfl
  · intro h
    rw [h]
    decide +kernel

/-- Documents that look like JSON are the objects and the lists. -/
theorem isJsonScalar_iff : IsJsonScalar text ↔
    ∃ v, Json.parse (Text.trimmed text) = .ok v ∧ v.members? = none ∧ v.items? = none := by
  have hlooks {v : Value} (h : Json.parse (Text.trimmed text) = .ok v) :
      looksLikeJson text = false ↔ v.members? = none ∧ v.items? = none := by
    obtain ⟨c, r, hcs, hbegins⟩ := Json.beginsWith_of_parse h
    rw [Text.trimmed, String.toList_ofList, Json.skipSpace_trim] at hcs
    rw [looksLikeJson, Text.trimmed, String.toList_ofList, hcs, hbegins.members?_eq_none_iff,
      hbegins.items?_eq_none_iff]
    simp
  constructor
  · rintro ⟨⟨v, h⟩, hnot⟩
    exact ⟨v, h, (hlooks h).mp hnot⟩
  · rintro ⟨v, h, hkind⟩
    exact ⟨⟨v, h⟩, (hlooks h).mpr hkind⟩

/-! ### The value of a body -/

theorem readResponseBody_eq (type : Option String) (text : String) : readResponseBody type text =
    if Text.isBlankText text then .null
    else if type.any MediaType.isJson || looksLikeJson text then
      match Json.parse (Text.trimmed text) with
      | .ok v => v
      | .error _ => .string (Text.trimmed text)
    else .string (Text.trimmed text) := by
  simp only [readResponseBody, Text.trimmed_eq_empty_iff]
  rfl

theorem readsAs_readResponseBody (type : Option String) (text : String) :
    ReadsAs type text (readResponseBody type text) := by
  rw [readResponseBody_eq]
  split
  · next hblank => exact .blank hblank
  · next hblank =>
    have hblank : Text.isBlankText text = false := by simpa using hblank
    split
    · next htype =>
      split
      · next v h => exact .parsed htype h
      · next e h => exact .kept hblank fun _ v hv => by simp [h] at hv
    · next htype => exact .kept hblank fun htype' => absurd htype' htype

theorem not_isBlankText_of_parse (h : Json.parse (Text.trimmed text) = .ok v) :
    Text.isBlankText text = false := by
  cases hblank : Text.isBlankText text with
  | false => rfl
  | true =>
    rw [Text.trimmed_eq_empty_iff.mpr hblank] at h
    obtain ⟨c, r, hcs, -⟩ := Json.beginsWith_of_parse h
    cases hcs

theorem ReadsAs.eq (h : ReadsAs type text v) : v = readResponseBody type text := by
  rw [readResponseBody_eq]
  cases h with
  | blank hblank => rw [if_pos hblank]
  | parsed htype h =>
    rw [not_isBlankText_of_parse h, if_neg Bool.false_ne_true, if_pos htype, h]
  | kept hblank h =>
    rw [hblank, if_neg Bool.false_ne_true]
    split
    · next htype =>
      split
      · next v hv => exact absurd hv (h htype v)
      · rfl
    · rfl

theorem readsAs_iff : ReadsAs type text v ↔ v = readResponseBody type text :=
  ⟨ReadsAs.eq, fun h => h ▸ readsAs_readResponseBody type text⟩

theorem readResponseBody_trim {front back : String} (hfront : Text.isBlankText front = true)
    (hback : Text.isBlankText back = true) (type : Option String) (text : String) :
    readResponseBody type (front ++ text ++ back) = readResponseBody type text := by
  have htrimmed : Text.trimmed (front ++ text ++ back) = Text.trimmed text := by
    rw [Text.trimmed, String.toList_append, String.toList_append,
      Text.trim_append_of_blank (List.all_eq_true.mp hfront) (List.all_eq_true.mp hback)]
    rfl
  rw [readResponseBody, readResponseBody, htrimmed]

theorem readResponseBody_eq_null_iff : readResponseBody type text = .null ↔
    Text.isBlankText text = true ∨ type.any MediaType.isJson = true ∧ Text.trimmed text = "null" := by
  constructor
  · intro h
    have hreads := readsAs_readResponseBody type text
    rw [h] at hreads
    cases hreads with
    | blank hblank => exact .inl hblank
    | parsed htype hparse =>
      have hnull := Json.parse_trimmed_eq_null_iff.mp hparse
      have hlooks : looksLikeJson text = false := by
        rw [looksLikeJson, hnull]
        decide
      rw [hlooks, Bool.or_false] at htype
      exact .inr ⟨htype, hnull⟩
  · rintro (hblank | ⟨htype, hnull⟩)
    · exact (ReadsAs.blank hblank).eq.symm
    · have hreads : ReadsAs type text .null :=
        .parsed (by rw [htype, Bool.true_or]) (Json.parse_trimmed_eq_null_iff.mpr hnull)
      exact hreads.eq.symm

/-! ### The part of the type -/

theorem readResponseBody_of_scalar (hparse : Json.parse (Text.trimmed text) = .ok v)
    (hlooks : looksLikeJson text = false) (type : Option String) : readResponseBody type text =
      if type.any MediaType.isJson then v else .string (Text.trimmed text) := by
  rw [readResponseBody_eq, not_isBlankText_of_parse hparse, if_neg Bool.false_ne_true, hlooks,
    Bool.or_false, hparse]

theorem readResponseBody_of_not_scalar (h : ¬ IsJsonScalar text) (type type' : Option String) :
    readResponseBody type text = readResponseBody type' text := by
  rw [readResponseBody_eq, readResponseBody_eq]
  cases hlooks : looksLikeJson text with
  | true => rw [Bool.or_true, Bool.or_true]
  | false =>
    cases hparse : Json.parse (Text.trimmed text) with
    | ok v => exact absurd ⟨⟨v, hparse⟩, hlooks⟩ h
    | error e => simp only [ite_self]

/-- Where it is a scalar, a text gives another value when it is read as JSON than when it is kept. -/
theorem readResponseBody_eq_iff : readResponseBody type text = readResponseBody type' text ↔
    (IsJsonScalar text → type.any MediaType.isJson = type'.any MediaType.isJson) := by
  by_cases hscalar : IsJsonScalar text
  · obtain ⟨v, hparse⟩ := hscalar.parses
    have hne := Json.ne_string_of_parse hparse
    rw [readResponseBody_of_scalar hparse hscalar.looks, readResponseBody_of_scalar hparse hscalar.looks]
    cases type.any MediaType.isJson with
    | true => cases type'.any MediaType.isJson <;> simp [hscalar, hne]
    | false => cases type'.any MediaType.isJson <;> simp [hscalar, hne.symm]
  · exact iff_of_true (readResponseBody_of_not_scalar hscalar type type') fun h => absurd h hscalar

/-- The value of a body does not hang on its type unless it is a JSON scalar, a document that begins neither
like an object nor like a list and is none. White space around it makes no difference. It is null for nothing
and for the JSON null alone, and what does not come from reading JSON is the whole trimmed text. -/
theorem readResponseBody_by_type (text : String) :
    (IsJsonScalar text ↔
      ∃ v, Json.parse (Text.trimmed text) = .ok v ∧ v.members? = none ∧ v.items? = none) ∧
    (∀ type type', readResponseBody type text = readResponseBody type' text ↔
      (IsJsonScalar text → type.any MediaType.isJson = type'.any MediaType.isJson)) ∧
    (∀ type front back, Text.isBlankText front = true → Text.isBlankText back = true →
      readResponseBody type (front ++ text ++ back) = readResponseBody type text) ∧
    (∀ type, readResponseBody type text = .null ↔ Text.isBlankText text = true ∨
      type.any MediaType.isJson = true ∧ Text.trimmed text = "null") ∧
    (∀ type, Text.isBlankText text = true ∧ readResponseBody type text = .null ∨
      Json.parse (Text.trimmed text) = .ok (readResponseBody type text) ∨
      readResponseBody type text = .string (Text.trimmed text)) ∧
    ∀ type v, ReadsAs type text v ↔ v = readResponseBody type text := by
  refine ⟨isJsonScalar_iff, fun _ _ => readResponseBody_eq_iff,
    fun type _ _ hfront hback => readResponseBody_trim hfront hback type text,
    fun _ => readResponseBody_eq_null_iff, fun type => ?_, fun _ _ => readsAs_iff⟩
  have hreads := readsAs_readResponseBody type text
  generalize readResponseBody type text = v at hreads
  cases hreads with
  | blank hblank => exact .inl ⟨hblank, rfl⟩
  | parsed _ hparse => exact .inr (.inl hparse)
  | kept _ _ => exact .inr (.inr rfl)

/-- A number with white space beyond ASCII around it, under a type with the suffix of JSON and under what is no
type at all. -/
theorem readResponseBody_by_type_number :
    let json := "application/problem+json; charset=utf-8"
    Text.isBlankText "\u2003\n" = true ∧ Text.isBlankText "\u0085" = true ∧ IsJsonScalar "42" ∧
      readResponseBody (some json) ("\u2003\n" ++ "42" ++ "\u0085") = .int 42 ∧
      readResponseBody (some "not a type") ("\u2003\n" ++ "42" ++ "\u0085") = .string "42" ∧
      readResponseBody (some json) "42" ≠ readResponseBody (some "not a type") "42" := by
  intro json
  obtain ⟨hscalar, htypes, htrim, -, -, -⟩ := readResponseBody_by_type "42"
  have hfront : Text.isBlankText "\u2003\n" = true := by decide
  have hback : Text.isBlankText "\u0085" = true := by decide
  have hnumber : IsJsonScalar "42" := hscalar.mpr ⟨.int 42, by decide +kernel, rfl, rfl⟩
  refine ⟨hfront, hback, hnumber, (htrim _ _ _ hfront hback).trans (by decide +kernel),
    (htrim _ _ _ hfront hback).trans (by decide +kernel), fun hsame => ?_⟩
  have htypes := (htypes _ _).mp hsame hnumber
  revert htypes
  decide +kernel

end ApiToolbox
