import ApiToolbox.Proofs.RequestUrl.Shape
import ApiToolbox.Proofs.Url.Tail

/-! The base address as the beginning of all requests. The segments of a template come to stand behind its
path, but only if it has neither a query nor a fragment: they are put behind its text. -/

namespace ApiToolbox

open Json (Value)

namespace Url

/-- A text without the slashes at its end, and segments behind it. -/
def extended (text : String) (segments : List String) : String :=
  String.ofList (Text.dropEndWhile (· = '/') text.toList) ++ (Path.segments segments).text

/-- An address with segments behind its text: they belong to its fragment, else to its query, else to its
path. -/
def behind (u : Url) (segments : List String) : Url :=
  match u.fragment, u.query with
  | some f, _ => { u with fragment := some (extended f segments) }
  | none, some q => { u with query := some (extended q segments) }
  | none, none => { u with path := .segments (u.path.trimmed ++ segments) }

theorem toList_extended (text : String) (segments : List String) : (extended text segments).toList =
    Text.dropEndWhile (· = '/') text.toList ++ slashed segments := by
  rw [extended, String.toList_append, String.toList_ofList, toList_text_segments]

theorem forall_mem_extended {p : Char → Prop} {text : String} {segments : List String}
    (htext : ∀ c ∈ text.toList, p c) (hsegments : ∀ c ∈ slashed segments, p c) :
    ∀ c ∈ (extended text segments).toList, p c := by
  intro c hc
  rw [toList_extended, List.mem_append] at hc
  rcases hc with hc | hc
  · exact htext c ((List.rdropWhile_prefix _ _).subset hc)
  · exact hsegments c hc

/-- The slashes at the end of a text are those behind its last mark. -/
theorem dropEndWhile_mark {mark : Char} (hmark : mark ≠ '/') (front : List Char) (text : String) :
    Text.dropEndWhile (· = '/') (front ++ mark :: text.toList) =
      front ++ mark :: Text.dropEndWhile (· = '/') text.toList := by
  have hmem : ∃ c ∈ mark :: text.toList, decide (c = '/') = false := ⟨mark, by simp, by simpa using hmark⟩
  have hone : ∀ c ∈ [mark], decide (c = '/') = false := by simpa using hmark
  rw [Text.dropEndWhile_append hmem, show mark :: text.toList = [mark] ++ text.toList from rfl,
    Text.dropEndWhile_append_of_forall hone]
  rfl

section Behind

variable {u : Url} {segments : List String}

theorem behind_of_fragment {f : String} (hf : u.fragment = some f) :
    u.behind segments = { u with fragment := some (extended f segments) } := by
  rw [behind, hf]

theorem behind_of_query {q : String} (hf : u.fragment = none) (hq : u.query = some q) :
    u.behind segments = { u with query := some (extended q segments) } := by
  rw [behind, hf, hq]

theorem behind_of_path (hf : u.fragment = none) (hq : u.query = none) :
    u.behind segments = { u with path := .segments (u.path.trimmed ++ segments) } := by
  rw [behind, hf, hq]

theorem tail_behind (h : u.IsRead) :
    (u.behind segments).tail = Text.dropEndWhile (· = '/') u.tail ++ slashed segments := by
  obtain ⟨parts, hpath, -, hparts⟩ := h.path
  cases hf : u.fragment with
  | some f =>
    simp only [behind_of_fragment hf, tail, hf, Option.map_some, Option.getD_some, toList_extended]
    rw [dropEndWhile_mark (by decide)]
    simp
  | none =>
    cases hq : u.query with
    | some q =>
      simp only [behind_of_query hf hq, tail, hf, hq, Option.map_some, Option.map_none,
        Option.getD_some, Option.getD_none, toList_extended, List.append_nil]
      rw [dropEndWhile_mark (by decide)]
      simp
    | none =>
      have hnew : tail { u with path := .segments (u.path.trimmed ++ segments) } =
          slashed (u.path.trimmed ++ segments) := tail_of_path rfl hq hf
      rw [behind_of_path hf hq, hnew, tail_of_path hpath hq hf,
        dropEndWhile_slashed fun s hs => (hparts s hs).1, hpath, Path.trimmed, slashed_append]

theorem IsRead.behind (h : u.IsRead)
    (hsegments : ∀ s ∈ segments, (∀ c ∈ s.toList, isUnreserved c = true) ∧ isDot s = false)
    (hne : segments ≠ []) : (u.behind segments).IsRead := by
  obtain ⟨parts, hpath, hparts, hall⟩ := h.path
  have hslashed {p : Char → Prop} (hslash : p '/') (hchar : ∀ c, isUnreserved c = true → p c) :
      ∀ c ∈ slashed segments, p c :=
    forall_mem_slashed hslash fun s hs c hc => hchar c ((hsegments s hs).1 c hc)
  cases hf : u.fragment with
  | some f =>
    rw [behind_of_fragment hf]
    refine ⟨h.path, h.query, ?_⟩
    rintro _ ⟨⟩
    exact forall_mem_extended (h.fragment f hf) (hslashed (by decide) fun c hc =>
      Text.forall_ascii (P := fun c => isUnreserved c = true → keepInFragment c = true)
        (by decide +kernel) (lt_of_isUnreserved hc) hc)
  | none =>
    cases hq : u.query with
    | some q =>
      rw [behind_of_query hf hq]
      refine ⟨h.path, ?_, h.fragment⟩
      rintro _ ⟨⟩
      exact forall_mem_extended (h.query q hq) (hslashed (by decide) fun c hc =>
        Text.forall_ascii (P := fun c => isUnreserved c = true → keepInQuery true c = true)
          (by decide +kernel) (lt_of_isUnreserved hc) hc)
    | none =>
      rw [behind_of_path hf hq]
      refine ⟨⟨_, rfl, by simp [hne], fun s hs => ?_⟩, h.query, h.fragment⟩
      rcases List.mem_append.mp hs with hs | hs
      · rw [hpath] at hs
        exact hall s ((List.rdropWhile_prefix _ _).subset hs)
      · exact ⟨fun c hc => isSegmentChar_of_isUnreserved ((hsegments s hs).1 c hc), (hsegments s hs).2⟩

/-- The path of an address is not what it is with segments behind it. -/
theorem path_ne_trimmed_append (h : u.IsRead) (hempty : ∀ s ∈ segments, s ≠ "") (hne : segments ≠ []) :
    u.path ≠ .segments (u.path.trimmed ++ segments) := by
  obtain ⟨parts, hpath, -, -⟩ := h.path
  rw [hpath, Path.trimmed]
  intro heq
  have heq := Path.segments.inj heq
  have hlast : parts.getLast? = segments.getLast? := by
    rw [heq, List.getLast?_append_of_ne_nil _ hne]
  have hkept : parts.rdropWhile (· = "") = parts := by
    refine List.rdropWhile_eq_self_iff.mpr fun hparts => ?_
    have hmem : parts.getLast hparts ∈ segments :=
      List.mem_of_getLast? (hlast ▸ List.getLast?_eq_some_getLast hparts)
    simpa using hempty _ hmem
  rw [hkept] at heq
  simp [hne] at heq

theorem path_behind_iff (h : u.IsRead) (hempty : ∀ s ∈ segments, s ≠ "") (hne : segments ≠ []) :
    (u.behind segments).path = .segments (u.path.trimmed ++ segments) ↔
      u.query = none ∧ u.fragment = none := by
  have hpath := path_ne_trimmed_append h hempty hne
  cases hf : u.fragment with
  | some f => simp [behind_of_fragment hf, hpath]
  | none =>
    cases hq : u.query with
    | some q => simp [behind_of_query hf hq, hpath]
    | none => simp [behind_of_path hf hq]

end Behind

end Url

namespace RequestUrl

theorem path_of_pathParams_eq_nil {op : Operation} (h : op.pathParams = []) (args : Members Value) :
    path op args = .ok op.path := by
  rw [path, h, fill]
  simp [Except.map]

theorem queryPairs_of_queryParams_eq_nil {op : Operation} (h : op.queryParams = [])
    (args : Members Value) : queryPairs op args = [] := by
  rw [queryPairs, h, List.flatMap_nil]

/-- A request without parameters goes to the base address with the segments of the template behind it. So
the path of the base address is a beginning of its path if the base address has neither a query nor a
fragment; else the template stands in these, and the path is that of the base address alone. -/
theorem build_behind_base {given : String} {base : Url} (hbase : BaseUrl.parse given = .ok base)
    {op : Operation} (hparams : op.pathParams = [] ∧ op.queryParams = []) {segments : List String}
    (hsegments : ∀ s ∈ segments, s ≠ "" ∧ s ≠ "." ∧ s ≠ ".." ∧ ∀ c ∈ s.toList, Url.isUnreserved c = true)
    (hne : segments ≠ []) {rooted : Bool}
    (htemplate : op.path = (if rooted then "/" else "") ++ "/".intercalate segments)
    (args : Members Value) :
    (Url.parse base.text = .ok base → ∃ u, build base op args = .ok u) ∧
      ∀ u, build base op args = .ok u →
        { u with authority := base.authority } = base.behind segments ∧
        (u.path = .segments (base.path.trimmed ++ segments) ↔
          base.query = none ∧ base.fragment = none) := by
  obtain ⟨hparse, hs⟩ := BaseUrl.cases_of_parse hbase
  obtain ⟨a, hweb, -⟩ := Url.exists_isWeb_of_parse hparse hs
  have hread := Url.isRead_of_parse hparse hs
  have hpath := path_of_pathParams_eq_nil hparams.1 args
  have hpairs := queryPairs_of_queryParams_eq_nil hparams.2 args
  have hdot : ∀ s ∈ segments, (∀ c ∈ s.toList, Url.isUnreserved c = true) ∧ Url.isDot s = false := by
    intro s hs
    obtain ⟨-, hone, htwo, hchars⟩ := hsegments s hs
    exact ⟨hchars, Url.not_isDot_of_isUnreserved hchars hone htwo⟩
  have hempty : ∀ s ∈ segments, s ≠ "" := fun s hs => (hsegments s hs).1
  have hsegment : ∀ s ∈ segments, Url.IsSegment s ∧ s ≠ "" := fun s hs =>
    ⟨fun c hc => Url.isSegmentChar_of_isUnreserved ((hdot s hs).1 c hc), hempty s hs⟩
  have htext : op.path.toList =
      (if rooted then ['/'] else []) ++ ['/'].intercalate (segments.map String.toList) := by
    rw [htemplate, String.toList_append, String.toList_intercalate]
    cases rooted <;> rfl
  constructor
  · intro hagain
    exact ⟨_, (build_eq_ok_iff hweb).mpr
      ⟨_, a, hpath, authority_parse_of_parse_text hweb hagain, rfl⟩⟩
  · intro u hu
    obtain ⟨text, a', hok, -, rfl⟩ := (build_eq_ok_iff hweb).mp hu
    obtain rfl := Except.ok.inj (hpath.symm.trans hok)
    rw [hpairs, withPairs, if_pos rfl, htext, joined_intercalate hsegment hne, ← Url.tail_behind hread,
      (hread.behind hdot hne).web_tail, ← Url.path_behind_iff hread hempty hne]
    have hkeeps : (base.behind segments).scheme = base.scheme ∧
        (base.behind segments).authority = base.authority := by
      unfold Url.behind
      split <;> exact ⟨rfl, rfl⟩
    refine ⟨?_, Iff.rfl⟩
    rw [← hkeeps.1, ← hkeeps.2]

/-! ### An operation without parameters -/

def allItems : Operation := ⟨"items_all", .get, "items/all", "List items", none, [], [], none⟩

/-- The template has no slash in front, and the base address one at its end. -/
theorem build_behind_base_items : ∃ u, build exampleBase allItems [] = .ok u ∧
    u.path = .segments ["v1", "items", "all"] := by
  have hsegments : ∀ s ∈ ["items", "all"],
      s ≠ "" ∧ s ≠ "." ∧ s ≠ ".." ∧ ∀ c ∈ s.toList, Url.isUnreserved c = true := by
    simp only [← List.all_eq_true]
    decide +kernel
  have hparams : allItems.pathParams = [] ∧ allItems.queryParams = [] := ⟨rfl, rfl⟩
  have htemplate : allItems.path = (if false then "/" else "") ++ "/".intercalate ["items", "all"] := by
    decide +kernel
  obtain ⟨hok, hbehind⟩ :=
    build_behind_base parse_exampleBase hparams hsegments (by simp) htemplate []
  obtain ⟨u, hu⟩ := hok parse_text_exampleBase
  exact ⟨u, hu, (hbehind u hu).2.mpr ⟨rfl, rfl⟩⟩

def keyedBase : Url :=
  ⟨"http", some ⟨"", "", .domain "api.test", none⟩, .segments ["v1"], some "key=1", none⟩

/-- Behind a base address with a query the template becomes a part of the query. -/
theorem items_in_query : BaseUrl.parse "http://api.test/v1?key=1" = .ok keyedBase ∧
    ∃ u, build keyedBase allItems [] = .ok u ∧ u.query = some "key=1/items/all" ∧
      u.path = .segments ["v1"] ∧ u.path ≠ .segments (keyedBase.path.trimmed ++ ["items", "all"]) :=
  ⟨by decide +kernel, { keyedBase with query := some "key=1/items/all" }, by decide +kernel, rfl, rfl,
    by decide +kernel⟩

end RequestUrl
end ApiToolbox
