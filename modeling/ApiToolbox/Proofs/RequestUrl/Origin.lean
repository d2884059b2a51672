import ApiToolbox.Proofs.Url.Web
import ApiToolbox.Registry
import ApiToolbox.RequestUrl

/-! Where requests go. Whatever is put behind a base address, the scheme and the authority of the
request are those of the base address. -/

namespace ApiToolbox

open Json (Value)

theorem BaseUrl.cases_of_parse {given : String} {base : Url} (h : BaseUrl.parse given = .ok base) :
    Url.parse (Text.trimmed given) = .ok base ∧ Url.IsWebScheme base.scheme := by
  unfold BaseUrl.parse at h
  split at h
  · cases h
  · next u hu =>
    split at h
    · cases h
    · next hscheme =>
      split at h
      · cases h
      · obtain rfl := Except.ok.inj h
        refine ⟨hu, ?_⟩
        simpa [Url.IsWebScheme, Decidable.imp_iff_not_or, or_comm] using hscheme

namespace RequestUrl

/-! ### The path -/

theorem pathText?_eq_some_iff {args : Members Value} {name text : String} :
    pathText? args name = some text ↔
      ∃ v, args.get? name = some v ∧ v.isNull = false ∧ v.addressText = text ∧ text ≠ "" := by
  simp only [pathText?, Option.filter_eq_some_iff, Option.map_eq_some_iff, decide_eq_true_eq,
    Bool.not_eq_true']
  constructor
  · rintro ⟨⟨v, ⟨hv, hnull⟩, htext⟩, hne⟩
    exact ⟨v, hv, hnull, htext, hne⟩
  · rintro ⟨v, hv, hnull, htext, hne⟩
    exact ⟨⟨v, ⟨hv, hnull⟩, htext⟩, hne⟩

theorem fill_isOk_iff (args : Members Value) (params : List Parameter) (template : List Char) :
    (∃ filled, fill args params template = .ok filled) ↔
      ∀ p ∈ params, ∃ text, pathText? args p.name = some text := by
  induction params generalizing template with
  | nil => simp [fill]
  | cons p rest ih =>
    rw [fill]
    cases hp : pathText? args p.name with
    | none => simp [hp]
    | some text => simp [hp, ih]

/-- The only way to fail is a parameter without a value, and the failure names it. -/
theorem fill_eq_error {args : Members Value} {params : List Parameter} {template : List Char}
    {e : RequestUrlError} (h : fill args params template = .error e) :
    ∃ p ∈ params, pathText? args p.name = none ∧ e = .missingPath p.name := by
  induction params generalizing template with
  | nil => simp [fill] at h
  | cons p rest ih =>
    rw [fill] at h
    cases hp : pathText? args p.name with
    | none =>
      rw [hp] at h
      exact ⟨p, by simp, hp, (Except.error.inj h).symm⟩
    | some text =>
      rw [hp] at h
      obtain ⟨q, hq, hnone, he⟩ := ih h
      exact ⟨q, by simp [hq], hnone, he⟩

theorem path_eq_error {op : Operation} {args : Members Value} {e : RequestUrlError}
    (h : path op args = .error e) :
    ∃ p ∈ op.pathParams, pathText? args p.name = none ∧ e = .missingPath p.name := by
  unfold path at h
  cases hfill : fill args op.pathParams op.path.toList with
  | error e' =>
    rw [hfill] at h
    obtain rfl : e' = e := Except.error.inj h
    exact fill_eq_error hfill
  | ok filled => simp [hfill, Except.map] at h

/-- An address lacks a path parameter only where the path does. -/
theorem exists_of_build_eq_missingPath {base : Url} {op : Operation} {args : Members Value} {n : String}
    (h : build base op args = .error (.missingPath n)) :
    ∃ p ∈ op.pathParams, p.name = n ∧ pathText? args n = none := by
  unfold build at h
  cases hpath : path op args with
  | error e =>
    rw [hpath] at h
    obtain rfl : e = .missingPath n := Except.error.inj h
    obtain ⟨p, hp, hnone, hname⟩ := path_eq_error hpath
    obtain rfl := RequestUrlError.missingPath.inj hname
    exact ⟨p, hp, rfl, hnone⟩
  | ok text =>
    simp only [hpath, bind, Except.bind] at h
    split at h
    · cases Except.error.inj h
    · cases h

/-- A path can be filled when each of its parameters has a value that is not null and whose text is
not empty. -/
theorem path_isOk_iff (op : Operation) (args : Members Value) :
    (∃ text, path op args = .ok text) ↔
      ∀ p ∈ op.pathParams, ∃ v, args.get? p.name = some v ∧ v.isNull = false ∧
        v.addressText ≠ "" := by
  have hfill := fill_isOk_iff args op.pathParams op.path.toList
  simp only [pathText?_eq_some_iff] at hfill
  simp only [path, map_eq_ok_iff]
  constructor
  · rintro ⟨_, filled, hok, -⟩ p hp
    obtain ⟨_, v, hv, hnull, rfl, hne⟩ := hfill.mp ⟨filled, hok⟩ p hp
    exact ⟨v, hv, hnull, hne⟩
  · intro h
    obtain ⟨filled, hok⟩ := hfill.mpr fun p hp => by
      obtain ⟨v, hv, hnull, hne⟩ := h p hp
      exact ⟨_, v, hv, hnull, rfl, hne⟩
    exact ⟨_, filled, hok, rfl⟩

/-! ### The address -/

/-- What stands behind the authority once a path has been put there. -/
def joined (tail path : List Char) : List Char :=
  Text.dropEndWhile (· = '/') tail ++ if path.head? = some '/' then path else '/' :: path

theorem endsAuthority_joined {tail : List Char} (h : Url.EndsAuthority tail) (path : List Char) :
    Url.EndsAuthority (joined tail path) := by
  have hslash : Url.endsAuthority true '/' = true := by decide
  obtain ⟨run, htail, -⟩ := Text.exists_append_dropEndWhile (· = '/') tail
  intro c hc
  rw [joined] at hc
  cases hfront : Text.dropEndWhile (· = '/') tail with
  | cons d r =>
    rw [hfront] at htail hc
    obtain rfl : d = c := by simpa using hc
    exact h d (by simp [htail])
  | nil =>
    rw [hfront, List.nil_append] at hc
    split at hc
    · next hhead =>
      obtain rfl : '/' = c := by simpa [hhead] using hc
      exact hslash
    · obtain rfl : '/' = c := by simpa using hc
      exact hslash

section Web

variable {base : Url} {a : Url.Authority}

theorem toList_append (h : base.IsWeb a) (path : String) : (append base.text path).toList =
    base.scheme.toList ++ ':' :: '/' :: '/' :: (a.text.toList ++ joined base.tail path.toList) := by
  have hslash : ∀ c ∈ a.text.toList, decide (c = '/') = false := by
    intro c hc
    refine decide_eq_false ?_
    rintro rfl
    exact Url.not_mem_of_isAuthorityChar h.chars (by decide) hc
  obtain ⟨c, hc⟩ := List.exists_mem_of_ne_nil _ h.ne_nil
  have hdrop : Text.dropEndWhile (· = '/') base.text.toList =
      base.scheme.toList ++ [':', '/', '/'] ++
        (a.text.toList ++ Text.dropEndWhile (· = '/') base.tail) := by
    calc Text.dropEndWhile (· = '/') base.text.toList
        = Text.dropEndWhile (· = '/')
            (base.scheme.toList ++ [':', '/', '/'] ++ (a.text.toList ++ base.tail)) := by
          rw [Url.toList_text h.authority]
          simp
      _ = _ := by
          rw [Text.dropEndWhile_append ⟨c, by simp [hc], hslash c hc⟩,
            Text.dropEndWhile_append_of_forall hslash]
  unfold append joined
  rw [hdrop]
  split <;> simp

/-- The text of a request reads as the authority of the base address with a new rest. -/
theorem parse_append (h : base.IsWeb a) (path : String) : Url.parse (append base.text path) =
    (Url.Authority.parse base.scheme a.text.toList).map fun a' =>
      Url.web base.scheme a' (Url.cleanEnd (joined base.tail path.toList)) := by
  rw [← Url.parse_web h.scheme h.ne_nil h.chars (endsAuthority_joined h.endsAuthority_tail _),
    ← toList_append h, String.ofList_toList]

/-- A base address that can be read again from its text has an authority that can be. -/
theorem authority_parse_of_parse_text (h : base.IsWeb a) (hread : Url.parse base.text = .ok base) :
    Url.Authority.parse base.scheme a.text.toList = .ok a := by
  rw [h.parse_text, map_eq_ok_iff] at hread
  obtain ⟨a', ha', hbase⟩ := hread
  have hsame : some a' = some a := by
    rw [← h.authority, ← hbase]
    rfl
  rw [ha', Option.some.inj hsame]

/-- The address with the query pairs of a request, if there are any. -/
def withPairs (u : Url) (pairs : List (String × String)) : Url :=
  if pairs = [] then u else u.withQuery (Url.Form.encode pairs)

@[simp] theorem scheme_withPairs (u : Url) (pairs : List (String × String)) :
    (withPairs u pairs).scheme = u.scheme := by
  unfold withPairs
  split <;> rfl

@[simp] theorem authority_withPairs (u : Url) (pairs : List (String × String)) :
    (withPairs u pairs).authority = u.authority := by
  unfold withPairs
  split <;> rfl

@[simp] theorem path_withPairs (u : Url) (pairs : List (String × String)) :
    (withPairs u pairs).path = u.path := by
  unfold withPairs
  split <;> rfl

/-- The address of a request in its parts: the authority is read again, and what is behind it comes
from the path alone. -/
theorem build_eq (h : base.IsWeb a) (op : Operation) (args : Members Value) : build base op args =
    path op args >>= fun text =>
      match Url.Authority.parse base.scheme a.text.toList with
      | .error e => .error (.malformed op.tool e)
      | .ok a' => .ok (withPairs (Url.web base.scheme a' (Url.cleanEnd (joined base.tail text.toList)))
          (queryPairs op args)) := by
  unfold build
  cases path op args with
  | error e => rfl
  | ok text =>
    simp only [bind, Except.bind, parse_append h]
    cases Url.Authority.parse base.scheme a.text.toList with
    | error e => rfl
    | ok a' => rfl

theorem build_eq_ok_iff (h : base.IsWeb a) {op : Operation} {args : Members Value} {u : Url} :
    build base op args = .ok u ↔ ∃ text a', path op args = .ok text ∧
      Url.Authority.parse base.scheme a.text.toList = .ok a' ∧
      withPairs (Url.web base.scheme a' (Url.cleanEnd (joined base.tail text.toList)))
        (queryPairs op args) = u := by
  rw [build_eq h, bind_eq_ok_iff]
  cases Url.Authority.parse base.scheme a.text.toList with
  | error e => simp
  | ok a' => simp

end Web

/-- A request goes where the base address says, whatever the template and the arguments hold: its
address exists when its path does, and has the scheme and the authority of the base address. -/
theorem build_stays_within_base {given : String} {base : Url} (hbase : BaseUrl.parse given = .ok base)
    (hread : Url.parse base.text = .ok base) (op : Operation) (args : Members Value) :
    ((∃ u, build base op args = .ok u) ↔ ∃ text, path op args = .ok text) ∧
      ((∃ text, path op args = .ok text) ↔
        ∀ p ∈ op.pathParams, ∃ v, args.get? p.name = some v ∧ v.isNull = false ∧
          v.addressText ≠ "") ∧
      (∀ tool e, build base op args ≠ .error (.malformed tool e)) ∧
      ∀ u, build base op args = .ok u → u.scheme = base.scheme ∧ u.authority = base.authority := by
  obtain ⟨hparse, hs⟩ := BaseUrl.cases_of_parse hbase
  obtain ⟨a, hweb, -⟩ := Url.exists_isWeb_of_parse hparse hs
  have hagain := authority_parse_of_parse_text hweb hread
  refine ⟨?_, path_isOk_iff op args, ?_, ?_⟩
  · simp only [build_eq_ok_iff hweb]
    constructor
    · rintro ⟨_, text, _, htext, -⟩
      exact ⟨text, htext⟩
    · rintro ⟨text, htext⟩
      exact ⟨_, text, a, htext, hagain, rfl⟩
  · intro tool e he
    rw [build_eq hweb, hagain] at he
    cases hpath : path op args with
    | ok text => simp [hpath, bind, Except.bind] at he
    | error e' =>
      obtain ⟨p, -, -, rfl⟩ := path_eq_error hpath
      simp [hpath, bind, Except.bind] at he
  · intro u hu
    obtain ⟨text, a', -, ha', rfl⟩ := (build_eq_ok_iff hweb).mp hu
    obtain rfl := Except.ok.inj (ha'.symm.trans hagain)
    simp [hweb.authority]

/-- A base address with a user, an address of IPv6 and a port, and a template and a value that look
like other hosts. -/
theorem build_stays_within_base_ipv6 :
    let base : Url := ⟨"https", some ⟨"user", "pw", .ipv6 [0, 0, 0, 0, 0, 0, 0, 1], some 8443⟩,
      .segments [""], none, none⟩
    let op : Operation := ⟨"t", .get, "//other@host:1\\\x7bid\x7d", "", none,
      [Registry.undeclared "id"], [], none⟩
    BaseUrl.parse "https://user:pw@[::1]:8443" = .ok base ∧ Url.parse base.text = .ok base ∧
      ∃ u, build base op [("id", .string "@other/")] = .ok u ∧ u.scheme = "https" ∧
        u.authority = base.authority := by
  intro base op
  have hbase : BaseUrl.parse "https://user:pw@[::1]:8443" = .ok base := by decide +kernel
  have hread : Url.parse base.text = .ok base := by decide +kernel
  obtain ⟨hbuild, hpath, -, hsame⟩ := build_stays_within_base hbase hread op [("id", .string "@other/")]
  obtain ⟨u, hu⟩ := hbuild.mpr (hpath.mpr (by
    intro p hp
    obtain rfl := List.mem_singleton.mp hp
    exact ⟨_, rfl, rfl, by decide⟩))
  exact ⟨hbase, hread, u, hu, hsame u hu⟩

end RequestUrl
end ApiToolbox
