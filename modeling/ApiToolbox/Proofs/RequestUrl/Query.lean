import ApiToolbox.Proofs.RequestUrl.Origin
import ApiToolbox.Proofs.Url.Form
import ApiToolbox.Proofs.Url.Tail

/-! The query of a request. It holds the pairs of the arguments and nothing else; without such pairs it is
the query that is written in the base address or in the template. -/

namespace ApiToolbox

open Json (Value)

namespace Url

/-! ### Addresses without a question mark -/

theorem mem_of_mem_clean {cs : List Char} {c : Char} (h : c ∈ clean cs) : c ∈ cs := by
  have hend := List.mem_of_mem_filter h
  exact (List.dropWhile_suffix _).subset ((List.rdropWhile_prefix _ _).subset hend)

theorem mem_of_mem_rest {cs rest : List Char} {scheme : String} {c : Char}
    (h : scheme? cs = some (scheme, rest)) (hc : c ∈ rest) : c ∈ cs := by
  unfold scheme? at h
  split at h
  · next name after hcut =>
    simp only at h
    split at h
    · obtain ⟨-, rfl⟩ := Prod.mk.inj (Option.some.inj h)
      rw [Text.eq_of_cutAt? hcut]
      exact List.mem_append_right _ (List.mem_cons_of_mem _ hc)
    · cases h
  · cases h

theorem query_cutTail_of_not_mem {cs : List Char} (h : '?' ∉ cs) (special : Bool) :
    (cutTail special cs).2.1 = none := by
  unfold cutTail
  cases hcut : Text.cutAt? '#' cs with
  | none => simp [Text.cutAt?_of_not_mem h]
  | some cut =>
    obtain ⟨front, fragment⟩ := cut
    have hfront : '?' ∉ front := by
      intro hmem
      exact h (Text.eq_of_cutAt? hcut ▸ List.mem_append_left _ hmem)
    simp [Text.cutAt?_of_not_mem hfront]

theorem query_eq_none_of_parse {input : String} {u : Url} (h : parse input = .ok u)
    (hmark : '?' ∉ input.toList) : u.query = none := by
  obtain ⟨rest, hscheme, htail⟩ := exists_cutTail_of_parse h
  have hrest : '?' ∉ rest := fun hmem => hmark (mem_of_mem_clean (mem_of_mem_rest hscheme hmem))
  rw [(Prod.mk.inj htail).1, query_cutTail_of_not_mem hrest]

end Url

namespace RequestUrl

variable {base u : Url} {op : Operation} {args : Members Value}

/-! ### Pairs in an address -/

@[simp] theorem query_withPairs (u : Url) (pairs : List (String × String)) :
    (withPairs u pairs).query = if pairs = [] then u.query else some (Url.Form.encode pairs) := by
  unfold withPairs
  split <;> rfl

/-- An address is that of the path behind the base address, with the pairs of the arguments. -/
theorem exists_parse_of_build (h : build base op args = .ok u) : ∃ text v, path op args = .ok text ∧
    Url.parse (append base.text text) = .ok v ∧ u = withPairs v (queryPairs op args) := by
  unfold build at h
  obtain ⟨text, htext, h⟩ := bind_eq_ok_iff.mp h
  split at h
  · cases h
  · next v hv => exact ⟨text, v, htext, hv, (Except.ok.inj h).symm⟩

/-! ### What a path holds -/

theorem not_mem_fill {c : Char} (hc : Url.isSegmentChar c = false) {params : List Parameter}
    {template filled : List Char} (h : fill args params template = .ok filled) (htemplate : c ∉ template) :
    c ∉ filled := by
  induction params generalizing template with
  | nil =>
    obtain rfl := Except.ok.inj h
    exact htemplate
  | cons p rest ih =>
    rw [fill] at h
    split at h
    · cases h
    · next text _ =>
      refine ih h fun hmem => ?_
      rcases Text.mem_of_mem_replaceFirst hmem with hmem | hmem
      · exact (Url.isSegment_encodeComponent text).not_mem hc hmem
      · exact htemplate hmem

theorem mem_of_mem_append {base path : String} {c : Char} (hc : c ≠ '/')
    (h : c ∈ (append base path).toList) : c ∈ base.toList ∨ c ∈ path.toList := by
  have hfront {d : Char} (hd : d ∈ Text.dropEndWhile (· = '/') base.toList) : d ∈ base.toList :=
    (List.rdropWhile_prefix _ _).subset hd
  unfold append at h
  split at h
  · simp only [String.toList_append, String.toList_ofList, List.mem_append] at h
    exact h.imp_left hfront
  · simp only [String.toList_append, String.toList_ofList, List.mem_append] at h
    rcases h with (h | h) | h
    · exact .inl (hfront h)
    · exact absurd (by simpa using h) hc
    · exact .inr h

theorem query_eq_none_of_build (h : build base op args = .ok u) (hpairs : queryPairs op args = [])
    (hbase : '?' ∉ base.text.toList) (htemplate : '?' ∉ op.path.toList) : u.query = none := by
  obtain ⟨text, v, htext, hv, rfl⟩ := exists_parse_of_build h
  obtain ⟨filled, hfilled, rfl⟩ := map_eq_ok_iff.mp htext
  have hmark : '?' ∉ (append base.text (String.ofList filled)).toList := by
    intro hmem
    rcases mem_of_mem_append (by decide) hmem with hmem | hmem
    · exact hbase hmem
    · rw [String.toList_ofList] at hmem
      exact not_mem_fill (by decide) hfilled htemplate hmem
  rw [query_withPairs, if_pos hpairs, Url.query_eq_none_of_parse hv hmark]

/-- The query loses nothing. Pairs are read as they were written; so the query of a request is read as
the pairs of its arguments, by the order of the parameters, and there is none if there are no pairs and
nobody wrote one. -/
theorem decode_query_build :
    (∀ pairs, Url.Form.decode (Url.Form.encode pairs) = pairs) ∧
      ∀ (base u : Url) (op : Operation) (args : Members Value), build base op args = .ok u →
        (queryPairs op args ≠ [] → ∃ q, u.query = some q ∧ Url.Form.decode q =
          op.queryParams.flatMap fun p => ((args.get? p.name).map (pairs p.name)).getD []) ∧
        (queryPairs op args = [] → '?' ∉ base.text.toList → '?' ∉ op.path.toList → u.query = none) := by
  refine ⟨Url.Form.decode_encode, fun base u op args h => ⟨fun hpairs => ?_, query_eq_none_of_build h⟩⟩
  obtain ⟨text, v, -, -, rfl⟩ := exists_parse_of_build h
  refine ⟨_, by rw [query_withPairs, if_neg hpairs], ?_⟩
  rw [Url.Form.decode_encode]
  rfl

/-- A list with a null and an empty text, and a text with all signs that have a meaning in a query; and
the same operation without arguments. -/
theorem decode_query_build_search :
    let base : Url :=
      ⟨"http", some ⟨"", "", .domain "api.test", none⟩, .segments ["v1", ""], none, none⟩
    let op : Operation := ⟨"search", .get, "/search", "", none, [],
      [.declare "tags" .query false none .array none, .declare "q" .query false none .string none], none⟩
    let args : Members Value :=
      [("q", .string "a+b &c=é"), ("tags", .array [.string "x", .null, .string ""])]
    (∃ u q, build base op args = .ok u ∧ u.query = some q ∧
      Url.Form.decode q = [("tags", "x"), ("tags", ""), ("q", "a+b &c=é")]) ∧
      ∃ u, build base op [] = .ok u ∧ u.query = none := by
  intro base op args
  obtain ⟨-, hquery⟩ := decode_query_build
  have hsome : build base op args = .ok { base with
      path := .segments ["v1", "search"],
      query := some "tags=x&tags=&q=a%2Bb%20%26c%3D%C3%A9" } := by
    decide +kernel
  have hnone : build base op [] = .ok { base with path := .segments ["v1", "search"] } := by
    decide +kernel
  obtain ⟨q, hq, hpairs⟩ := (hquery base _ op args hsome).1 (by decide)
  exact ⟨⟨_, q, hsome, hq, hpairs⟩, _, hnone, (hquery base _ op [] hnone).2 rfl (by decide) (by decide)⟩

end RequestUrl
end ApiToolbox
