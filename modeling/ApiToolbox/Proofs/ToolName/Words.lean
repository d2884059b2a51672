import ApiToolbox.Proofs.ToolName
import Mathlib.Data.List.Chain

/-! The name that a path suggests, told by the words of the path. It has them in order with single underscores
between them and nothing else, so that a name of words suggests itself. -/

namespace ApiToolbox.ToolName

/-- The words of a text, told by where they stand: each comes behind a gap without letters and digits, is a
run of letters and digits, and ends with the text or in front of another character. -/
inductive HasWords : List Char → List (List Char) → Prop where
  | none {gap : List Char} (hgap : ∀ c ∈ gap, c.isAlphanum = false) : HasWords gap []
  | next {gap w rest : List Char} {ws : List (List Char)} (hgap : ∀ c ∈ gap, c.isAlphanum = false)
      (hne : w ≠ []) (hw : ∀ c ∈ w, c.isAlphanum = true)
      (hend : ∀ c ∈ rest.head?, c.isAlphanum = false) (hrest : HasWords rest ws) :
      HasWords (gap ++ w ++ rest) (w :: ws)

/-- The characters of a path without its braces. -/
def unbraced (path : String) : List Char := path.toList.filter fun c => !(c = '{' || c = '}')

/-- A path rewritten step by step: a slash in front falls away, the others become underscores, braces vanish,
whatever is left that is no letter, digit or underscore becomes an underscore, runs of underscores become
single ones, and those at the ends fall away. -/
def rewritten (path : String) : List Char :=
  let stripped := match path.toList with
    | '/' :: rest => rest
    | cs => cs
  let parted := stripped.map fun c => if c = '/' then '_' else c
  let kept := parted.filter fun c => !(c = '{' || c = '}')
  let plain := kept.map fun c => if c.isAlphanum || c = '_' then c else '_'
  trimUnderscores (collapse plain)

/-! ### The words of a text -/

theorem words_append_of_gap {gap : List Char} (h : ∀ c ∈ gap, c.isAlphanum = false) (cs : List Char) :
    words (gap ++ cs) = words cs := by
  induction gap with
  | nil => rfl
  | cons c gap ih =>
    obtain ⟨hc, hgap⟩ := List.forall_mem_cons.mp h
    rw [List.cons_append, words_cons_sep hc, ih hgap]

theorem words_of_gap {gap : List Char} (h : ∀ c ∈ gap, c.isAlphanum = false) : words gap = [] := by
  simpa using words_append_of_gap h []

/-- A run of letters and digits that does not go on is one word. -/
theorem words_append_of_run {w rest : List Char} (hne : w ≠ []) (hw : ∀ c ∈ w, c.isAlphanum = true)
    (hend : ∀ c ∈ rest.head?, c.isAlphanum = false) : words (w ++ rest) = w :: words rest := by
  cases rest with
  | nil => rw [List.append_nil, words_of_forall hne hw, words_nil]
  | cons c r =>
    have hc : c.isAlphanum = false := hend c rfl
    rw [words_append_sep hc, words_of_forall hne hw, words_cons_sep hc, List.singleton_append]

theorem HasWords.eq_words {cs : List Char} {ws : List (List Char)} (h : HasWords cs ws) :
    ws = words cs := by
  induction h with
  | none hgap => exact (words_of_gap hgap).symm
  | next hgap hne hw hend _ ih =>
    rw [List.append_assoc, words_append_of_gap hgap, words_append_of_run hne hw hend, ← ih]

theorem HasWords.cons_of_gap {c : Char} (hc : c.isAlphanum = false) {cs : List Char}
    {ws : List (List Char)} (h : HasWords cs ws) : HasWords (c :: cs) ws := by
  cases h with
  | none hgap => exact .none (List.forall_mem_cons.mpr ⟨hc, hgap⟩)
  | @next gap w rest ws hgap hne hw hend hrest =>
    exact .next (List.forall_mem_cons.mpr ⟨hc, hgap⟩) hne hw hend hrest

/-- A letter or digit in front of a word belongs to it, and in front of a gap it is a word. -/
theorem HasWords.cons_of_isAlphanum {c : Char} (hc : c.isAlphanum = true) {cs : List Char}
    {ws : List (List Char)} (h : HasWords cs ws) : ∃ ws', HasWords (c :: cs) ws' := by
  have hsingle : ∀ d ∈ [c], d.isAlphanum = true := by simpa using hc
  -- Only a word that begins at once goes on to the left; in all other cases a new one begins.
  have hnew (hend : ∀ d ∈ cs.head?, d.isAlphanum = false) : HasWords (c :: cs) ([c] :: ws) :=
    .next (List.forall_mem_nil _) (List.cons_ne_nil c []) hsingle hend h
  cases h with
  | none hgap => exact ⟨_, hnew fun d hd => hgap d (List.mem_of_mem_head? hd)⟩
  | @next gap w rest ws hgap hne hw hend hrest =>
    cases gap with
    | nil =>
      exact ⟨(c :: w) :: ws, .next (List.forall_mem_nil _) (List.cons_ne_nil c w)
        (List.forall_mem_cons.mpr ⟨hc, hw⟩) hend hrest⟩
    | cons d gap =>
      refine ⟨_, hnew ?_⟩
      rintro _ ⟨⟩
      exact hgap d List.mem_cons_self

theorem exists_hasWords (cs : List Char) : ∃ ws, HasWords cs ws := by
  induction cs with
  | nil => exact ⟨[], .none (List.forall_mem_nil _)⟩
  | cons c cs ih =>
    obtain ⟨ws, h⟩ := ih
    cases hc : c.isAlphanum with
    | false => exact ⟨ws, h.cons_of_gap hc⟩
    | true => exact h.cons_of_isAlphanum hc

theorem hasWords_iff {cs : List Char} {ws : List (List Char)} : HasWords cs ws ↔ ws = words cs := by
  constructor
  · exact HasWords.eq_words
  · rintro rfl
    obtain ⟨ws, h⟩ := exists_hasWords cs
    exact h.eq_words ▸ h

theorem words_eq_nil_iff {cs : List Char} : words cs = [] ↔ ∀ c ∈ cs, c.isAlphanum = false := by
  constructor
  · intro hnil
    cases hasWords_iff.mpr hnil.symm with
    | none hgap => exact hgap
  · exact words_of_gap

/-! ### Words with underscores between them -/

section Joined

variable {ws : List (List Char)} (h : ∀ w ∈ ws, w ≠ [] ∧ ∀ c ∈ w, c.isAlphanum = true)
include h

/-- No two underscores follow each other, since each stands between words. -/
theorem isChain_joined : (joined ws).IsChain fun a b => a = '_' → b ≠ '_' := by
  induction ws with
  | nil => simp
  | cons w ws ih =>
    obtain ⟨⟨-, hw⟩, hws⟩ := List.forall_mem_cons.mp h
    have hword : w.IsChain fun a b => a = '_' → b ≠ '_' := by
      refine List.Pairwise.isChain (List.pairwise_iff_forall_sublist.mpr fun {a b} hab ha => ?_)
      exact absurd ha (ne_underscore (hw a (hab.subset (by simp))))
    by_cases hnil : ws = []
    · simpa [hnil] using hword
    · have hbehind : ('_' :: joined ws).IsChain fun a b => a = '_' → b ≠ '_' := by
        rw [List.isChain_cons]
        exact ⟨fun b hb _ heq => head?_joined hws (heq ▸ hb), ih hws⟩
      rw [joined_cons w hnil, List.isChain_append]
      refine ⟨hword, hbehind, fun a ha b _ heq => ?_⟩
      exact absurd heq (ne_underscore (hw a (List.mem_of_mem_getLast? ha)))

theorem words_joined : words (joined ws) = ws := by
  induction ws with
  | nil => rfl
  | cons w ws ih =>
    obtain ⟨⟨hne, hw⟩, hws⟩ := List.forall_mem_cons.mp h
    by_cases hnil : ws = []
    · rw [hnil, joined_singleton, words_of_forall hne hw]
    · rw [joined_cons w hnil, words_append_sep (by decide), words_of_forall hne hw, ih hws,
        List.singleton_append]

theorem joined_eq_nil_iff : joined ws = [] ↔ ws = [] := by
  constructor
  · intro hnil
    have hwords := words_joined h
    rwa [hnil, words_nil, eq_comm] at hwords
  · rintro rfl
    exact joined_nil

theorem unbraced_joined : (joined ws).filter (fun c => !(c = '{' || c = '}')) = joined ws := by
  rw [List.filter_eq_self]
  intro c hc
  rcases mem_joined hc with rfl | ⟨w, hw, hcw⟩
  · decide
  · have hbrace (d : Char) (hd : d.isAlphanum = false) : c ≠ d := by
      rintro rfl
      rw [(h w hw).2 c hcw] at hd
      cases hd
    simp [hbrace '{' (by decide), hbrace '}' (by decide)]

end Joined

/-! ### The suggested name -/

/-- What is left out with the braces is no letter or digit. -/
theorem forall_mem_unbraced_iff {path : String} : (∀ c ∈ unbraced path, c.isAlphanum = false) ↔
    ∀ c ∈ path.toList, c.isAlphanum = false := by
  constructor
  · intro h c hc
    cases hkeep : !(c = '{' || c = '}') with
    | true => exact h c (List.mem_filter.mpr ⟨hc, hkeep⟩)
    | false =>
      rcases (Bool.or_eq_true _ _).mp ((Bool.not_eq_false' _).mp hkeep) with hbrace | hbrace
      · rw [of_decide_eq_true hbrace]
        decide
      · rw [of_decide_eq_true hbrace]
        decide
  · exact fun h c hc => h c (List.mem_of_mem_filter hc)

theorem base_eq_joined (path : String) : (base path).toList = joined (words (unbraced path)) :=
  base_toList path

/-- A name of words suggests itself. -/
theorem base_eq_self {name : String} {ws : List (List Char)}
    (h : ∀ w ∈ ws, w ≠ [] ∧ ∀ c ∈ w, c.isAlphanum = true) (hname : name.toList = joined ws) :
    base name = name := by
  rw [← String.toList_inj, base_toList, hname, unbraced_joined h, words_joined h]

theorem rewritten_eq (path : String) : rewritten path = joined (words (unbraced path)) := by
  have hplain (cs : List Char) :
      (((cs.map fun c => if c = '/' then '_' else c).filter fun c => !(c = '{' || c = '}')).map
        fun c => if c.isAlphanum || c = '_' then c else '_') =
        (cs.filter fun c => !(c = '{' || c = '}')).map mark := by
    rw [List.filter_map, List.map_map]
    congr 1
    · funext c
      by_cases hslash : c = '/'
      · subst hslash
        decide
      · by_cases hc : c.isAlphanum
        · simp [mark, hslash, hc]
        · by_cases hunderscore : c = '_' <;> simp [mark, hslash, hc, hunderscore]
    · congr 1
      funext c
      by_cases hslash : c = '/'
      · subst hslash
        decide
      · simp [hslash]
  unfold rewritten unbraced
  simp only [hplain, trimUnderscores_collapse]
  split
  · next rest hpath =>
    have hslash : ('/' :: rest).filter (fun c => !(c = '{' || c = '}')) =
        '/' :: rest.filter fun c => !(c = '{' || c = '}') := List.filter_cons_of_pos (by decide)
    rw [hpath, hslash, words_cons_sep (by decide)]
  · rfl

/-- The suggested name is what comes of the path when it is rewritten step by step, and that is its words
with single underscores between them, the braces left out. So no underscore stands at either end or next to
another one, the name is empty where the path has no letter or digit, and a suggested name suggests itself. -/
theorem base_joins_words (path : String) :
    (base path).toList = rewritten path ∧
      (∃ ws, HasWords (unbraced path) ws ∧ (base path).toList = ['_'].intercalate ws ∧
        ∀ ws', HasWords (unbraced path) ws' → ws' = ws) ∧
      (base path).toList.head? ≠ some '_' ∧ (base path).toList.getLast? ≠ some '_' ∧
      ¬ ['_', '_'] <:+: (base path).toList ∧
      (base path = "" ↔ ∀ c ∈ path.toList, c.isAlphanum = false) ∧
      base (base path) = base path := by
  have hwords := fun w (hw : w ∈ words (unbraced path)) => mem_words hw
  have hname := base_eq_joined path
  refine ⟨hname.trans (rewritten_eq path).symm,
    ⟨_, hasWords_iff.mpr rfl, hname, fun ws' h => h.eq_words⟩, ?_, ?_, ?_, ?_, ?_⟩
  · exact hname ▸ head?_joined hwords
  · exact hname ▸ getLast?_joined hwords
  · rintro ⟨front, back, htwo⟩
    have hchain := isChain_joined hwords
    rw [← hname, ← htwo] at hchain
    have hpair := hchain.left_of_append.right_of_append
    simp at hpair
  · rw [← String.toList_inj, hname, String.toList_empty, joined_eq_nil_iff hwords, words_eq_nil_iff,
      forall_mem_unbraced_iff]
  · exact base_eq_self hwords hname

/-- Words that grow together where a brace is left out, and characters that are no ASCII letters. -/
example : base "//a--b/{c}d_/é{}_7{/}" = "a_b_cd_7" := by decide +kernel

end ApiToolbox.ToolName
