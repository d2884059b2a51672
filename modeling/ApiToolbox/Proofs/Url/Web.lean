import ApiToolbox.Proofs.Url.Authority
import ApiToolbox.Proofs.Url.Path

/-! Reading web addresses. What is behind the authority does not change how the authority is read, as
long as it begins with something that ends one. -/

namespace ApiToolbox.Url

/-! ### Cleaning -/

/-- A control character or space. -/
def isLow (c : Char) : Bool := c.toNat ≤ 0x20

/-- What cleaning does behind text that is clean. -/
def cleanEnd (cs : List Char) : List Char :=
  (Text.dropEndWhile isLow cs).filter fun c => !(c = '\t' || c = '\n' || c = '\r')

theorem filter_breaks_of_forall {cs : List Char} (h : ∀ c ∈ cs, isLow c = false) :
    (cs.filter fun c => !(c = '\t' || c = '\n' || c = '\r')) = cs := by
  rw [List.filter_eq_self]
  intro c hc
  have hlow := h c hc
  have hne : c ≠ '\t' ∧ c ≠ '\n' ∧ c ≠ '\r' := by
    refine ⟨?_, ?_, ?_⟩ <;> rintro rfl <;> exact absurd hlow (by decide)
  simp [hne]

theorem cleanEnd_append {as : List Char} (h : ∀ c ∈ as, isLow c = false) (bs : List Char) :
    cleanEnd (as ++ bs) = as ++ cleanEnd bs := by
  rw [cleanEnd, Text.dropEndWhile_append_of_forall h, List.filter_append, filter_breaks_of_forall h]
  rfl

@[simp] theorem cleanEnd_nil : cleanEnd [] = [] := rfl

theorem cleanEnd_eq_self {cs : List Char} (h : ∀ c ∈ cs, isLow c = false) : cleanEnd cs = cs := by
  simpa using cleanEnd_append h []

theorem clean_eq_cleanEnd {c : Char} (h : isLow c = false) (cs : List Char) :
    clean (c :: cs) = cleanEnd (c :: cs) := by
  have hdrop : (c :: cs).dropWhile isLow = c :: cs := by simp [h]
  show (Text.dropEndWhile isLow ((c :: cs).dropWhile isLow)).filter _ = _
  rw [hdrop]
  rfl

/-! ### Cutting off query and fragment -/

theorem cutTail_append (special : Bool) {as : List Char} (hq : '?' ∉ as) (hf : '#' ∉ as)
    (bs : List Char) :
    cutTail special (as ++ bs) = (as ++ (cutTail special bs).1, (cutTail special bs).2) := by
  unfold cutTail
  rw [Text.cutAt?_append hf]
  cases Text.cutAt? '#' bs with
  | none =>
    simp only [Option.map_none, Text.cutAt?_append hq]
    cases Text.cutAt? '?' bs <;> rfl
  | some cut =>
    simp only [Option.map_some, Text.cutAt?_append hq]
    cases Text.cutAt? '?' cut.1 <;> rfl

theorem cutTail_hash (special : Bool) (cs : List Char) : (cutTail special ('#' :: cs)).1 = [] := by
  simp [cutTail, Text.cutAt?]

theorem cutTail_question (special : Bool) (cs : List Char) :
    (cutTail special ('?' :: cs)).1 = [] := by
  cases h : Text.cutAt? '#' cs <;> simp [cutTail, Text.cutAt?, h]

/-- What follows an authority: nothing, or something that begins with an end of authorities. -/
def EndsAuthority (rest : List Char) : Prop := ∀ c ∈ rest.head?, endsAuthority true c = true

theorem endsAuthority_of_isLow {c : Char} (h : endsAuthority true c = true) : isLow c = false := by
  simp only [endsAuthority, Bool.true_and, Bool.or_eq_true, decide_eq_true_eq] at h
  rcases h with ((rfl | rfl) | rfl) | rfl <;> decide

theorem EndsAuthority.cleanEnd {rest : List Char} (h : EndsAuthority rest) :
    EndsAuthority (cleanEnd rest) := by
  cases rest with
  | nil => exact h
  | cons c r =>
    have hc : endsAuthority true c = true := h c rfl
    have hlow : ∀ d ∈ [c], isLow d = false := by simpa using endsAuthority_of_isLow hc
    have hcut := cleanEnd_append hlow r
    rw [List.singleton_append] at hcut
    rw [hcut]
    intro d hd
    obtain rfl : c = d := by simpa using hd
    exact hc

/-- The path in front of a query or fragment is empty or begins with a slash. -/
theorem EndsAuthority.cutTail {rest : List Char} (h : EndsAuthority rest) :
    ∀ c ∈ (cutTail true rest).1.head?, isSlash true c = true := by
  cases rest with
  | nil => simp [Url.cutTail, Text.cutAt?]
  | cons c r =>
    have hc : endsAuthority true c = true := h c rfl
    by_cases hs : isSlash true c = true
    · have hne : c ≠ '?' ∧ c ≠ '#' := by
        constructor <;> rintro rfl <;> exact absurd hs (by decide)
      have hquestion : '?' ∉ [c] := by simpa using hne.1.symm
      have hhash : '#' ∉ [c] := by simpa using hne.2.symm
      have hcut := cutTail_append true hquestion hhash r
      rw [List.singleton_append] at hcut
      intro d hd
      obtain rfl : c = d := by simpa [hcut] using hd
      exact hs
    · have hqf : c = '?' ∨ c = '#' := by
        simp only [endsAuthority, isSlash, Bool.true_and, Bool.or_eq_true, decide_eq_true_eq] at hc hs
        tauto
      rcases hqf with rfl | rfl
      · simp [cutTail_question]
      · simp [cutTail_hash]

/-! ### Reading -/

/-- The schemes of web addresses. -/
def IsWebScheme (scheme : String) : Prop := scheme = "http" ∨ scheme = "https"

theorem IsWebScheme.isSpecial {scheme : String} (h : IsWebScheme scheme) :
    isSpecialScheme scheme = true := by
  rcases h with rfl | rfl <;> decide

theorem IsWebScheme.scheme? {scheme : String} (h : IsWebScheme scheme) (cs : List Char) :
    scheme? (scheme.toList ++ ':' :: cs) = some (scheme, cs) := by
  have hcolon : ':' ∉ scheme.toList := by
    rcases h with rfl | rfl <;> decide
  unfold Url.scheme?
  rw [Text.cutAt?_append_cons hcolon]
  rcases h with rfl | rfl <;> rfl

/-- The web address with an authority and with what follows the authority. -/
def web (scheme : String) (a : Authority) (rest : List Char) : Url :=
  let (path, query, fragment) := cutTail true rest
  ⟨scheme, some a, .segments (pathSegments true (path.drop 1)), query, fragment⟩

@[simp] theorem scheme_web (scheme : String) (a : Authority) (rest : List Char) :
    (web scheme a rest).scheme = scheme := rfl

@[simp] theorem authority_web (scheme : String) (a : Authority) (rest : List Char) :
    (web scheme a rest).authority = some a := rfl

theorem isLow_of_isAuthorityChar {c : Char} (h : isAuthorityChar c = true) : isLow c = false := by
  simp only [isAuthorityChar, Bool.and_eq_true, decide_eq_true_eq] at h
  simpa [isLow] using h.1.1

theorem not_endsAuthority {c : Char} (h : isAuthorityChar c = true) : endsAuthority true c = false := by
  simp only [isAuthorityChar, Bool.and_eq_true, Bool.not_eq_true'] at h
  exact h.2

theorem isSlash_of_isAuthorityChar {c : Char} (h : isAuthorityChar c = true) :
    isSlash true c = false := by
  have hends := not_endsAuthority h
  simp only [endsAuthority, Bool.or_eq_false_iff] at hends
  simp [isSlash, hends.1.1.1, hends.2]

theorem clean_web {scheme : String} (hs : IsWebScheme scheme) {auth : List Char}
    (hauth : ∀ c ∈ auth, isAuthorityChar c = true) (rest : List Char) :
    clean (scheme.toList ++ ':' :: '/' :: '/' :: (auth ++ rest)) =
      scheme.toList ++ ':' :: '/' :: '/' :: (auth ++ cleanEnd rest) := by
  have hlow : ∀ c ∈ scheme.toList ++ ':' :: '/' :: '/' :: auth, isLow c = false := by
    intro c hc
    have hsign : ∀ c ∈ scheme.toList ++ [':', '/', '/'], isLow c = false := by
      rcases hs with rfl | rfl <;> simp [isLow]
    rcases List.mem_append.mp (by simpa using hc : c ∈ (scheme.toList ++ [':', '/', '/']) ++ auth)
      with hc | hc
    · exact hsign c hc
    · exact isLow_of_isAuthorityChar (hauth c hc)
  obtain ⟨c, r, hfront⟩ := List.exists_cons_of_ne_nil
    (show scheme.toList ++ ':' :: '/' :: '/' :: auth ≠ [] by simp)
  have hfirst : isLow c = false := hlow c (by simp [hfront])
  have hsplit : scheme.toList ++ ':' :: '/' :: '/' :: (auth ++ rest) =
      (scheme.toList ++ ':' :: '/' :: '/' :: auth) ++ rest := by simp
  calc clean (scheme.toList ++ ':' :: '/' :: '/' :: (auth ++ rest))
      = clean (c :: (r ++ rest)) := by rw [hsplit, hfront, List.cons_append]
    _ = cleanEnd ((scheme.toList ++ ':' :: '/' :: '/' :: auth) ++ rest) := by
        rw [clean_eq_cleanEnd hfirst, hfront, List.cons_append]
    _ = scheme.toList ++ ':' :: '/' :: '/' :: (auth ++ cleanEnd rest) := by
        rw [cleanEnd_append hlow]
        simp

theorem not_mem_of_isAuthorityChar {auth : List Char}
    (hauth : ∀ c ∈ auth, isAuthorityChar c = true) {d : Char} (hd : isAuthorityChar d = false) :
    d ∉ auth := by
  intro hmem
  simp [hauth d hmem] at hd

/-- The slashes before an authority, the authority, and the path after it are told apart. -/
theorem takeWhile_authority {auth path : List Char} (hauth : ∀ c ∈ auth, isAuthorityChar c = true)
    (hpath : ∀ c ∈ path.head?, isSlash true c = true) :
    (auth ++ path).takeWhile (!isSlash true ·) = auth ∧
      (auth ++ path).dropWhile (!isSlash true ·) = path := by
  have hall : ∀ c ∈ auth, (!isSlash true c) = true := fun c hc => by
    simp [isSlash_of_isAuthorityChar (hauth c hc)]
  rw [List.takeWhile_append_of_pos hall, List.dropWhile_append_of_pos hall]
  cases path with
  | nil => simp
  | cons c r => simp [hpath c rfl]

/-- A web address is written as its scheme, its authority and the rest. -/
theorem parse_web {scheme : String} (hs : IsWebScheme scheme) {auth rest : List Char}
    (hne : auth ≠ []) (hauth : ∀ c ∈ auth, isAuthorityChar c = true) (hrest : EndsAuthority rest) :
    parse (String.ofList (scheme.toList ++ ':' :: '/' :: '/' :: (auth ++ rest))) =
      (Authority.parse scheme auth).map fun a => web scheme a (cleanEnd rest) := by
  have hquestion : '?' ∉ '/' :: '/' :: auth := by
    simpa using not_mem_of_isAuthorityChar hauth (d := '?') (by decide)
  have hhash : '#' ∉ '/' :: '/' :: auth := by
    simpa using not_mem_of_isAuthorityChar hauth (d := '#') (by decide)
  have hcut := cutTail_append true hquestion hhash (cleanEnd rest)
  have hpath := hrest.cleanEnd.cutTail
  simp only [List.cons_append] at hcut
  have hfile : scheme ≠ "file" := by
    rcases hs with rfl | rfl <;> decide
  obtain ⟨htake, hdrop⟩ := takeWhile_authority hauth hpath
  have hslashes : (('/' :: '/' :: (auth ++ (cutTail true (cleanEnd rest)).1)).takeWhile
      (isSlash true)).length = 2 := by
    obtain ⟨c, r, rfl⟩ := List.exists_cons_of_ne_nil hne
    have hslash : isSlash true '/' = true := by decide
    have hc := isSlash_of_isAuthorityChar (hauth c (by simp))
    simp [hslash, hc]
  unfold parse
  rw [String.toList_ofList, clean_web hs hauth, hs.scheme?]
  simp only [hs.isSpecial, hcut, hfile, hslashes, if_true, if_false, Bool.true_or, List.drop_succ_cons,
    List.drop_zero, htake, hdrop]
  cases Authority.parse scheme auth with
  | error e => rfl
  | ok a => simp [bind, Except.bind, Except.map, web]

/-- What has been read of a web address: an authority and the segments of a path. -/
theorem cases_of_parse {given : String} {u : Url} (h : parse given = .ok u)
    (hs : IsWebScheme u.scheme) :
    ∃ auth a, Authority.parse u.scheme auth = .ok a ∧ u.authority = some a ∧
      ∃ cs, u.path = .segments (pathSegments true cs) := by
  unfold parse at h
  split at h
  · cases h
  · next scheme rest _ =>
    simp only at h
    split at h
    · next hfile =>
      simp only [bind_eq_ok_iff] at h
      obtain ⟨parts, -, h⟩ := h
      obtain rfl := Except.ok.inj h
      rcases hs with hs | hs <;> simp [hfile] at hs
    · split at h
      · simp only [bind_eq_ok_iff] at h
        obtain ⟨a, ha, h⟩ := h
        obtain rfl := Except.ok.inj h
        have hspecial : isSpecialScheme scheme = true := hs.isSpecial
        refine ⟨_, a, ha, rfl, ?_⟩
        simp only [hspecial, Bool.not_true, Bool.and_false, Bool.false_eq_true, if_false]
        exact ⟨_, rfl⟩
      · next hnot =>
        have hscheme : u.scheme = scheme := by
          split at h <;> obtain rfl := Except.ok.inj h <;> rfl
        have hspecial := hs.isSpecial
        rw [hscheme] at hspecial
        simp [hspecial] at hnot

/-! ### Writing -/

/-- What is written behind the authority. -/
def tail (u : Url) : List Char :=
  u.path.text.toList ++ (u.query.map fun q => '?' :: q.toList).getD [] ++
    (u.fragment.map fun f => '#' :: f.toList).getD []

theorem toList_text {u : Url} {a : Authority} (h : u.authority = some a) : u.text.toList =
    u.scheme.toList ++ ':' :: '/' :: '/' :: (a.text.toList ++ u.tail) := by
  unfold text stem tail
  rw [h]
  cases u.query <;> cases u.fragment <;> simp

theorem endsAuthority_tail {u : Url} {parts : List String} (h : u.path = .segments parts) :
    EndsAuthority u.tail := by
  have hslash : endsAuthority true '/' = true := by decide
  have hquestion : endsAuthority true '?' = true := by decide
  have hhash : endsAuthority true '#' = true := by decide
  intro c hc
  rw [tail, h, toList_text_segments] at hc
  cases parts with
  | cons part rest =>
    obtain rfl : '/' = c := by simpa using hc
    exact hslash
  | nil =>
    cases hq : u.query with
    | some q =>
      obtain rfl : '?' = c := by simpa [hq] using hc
      exact hquestion
    | none =>
      cases hf : u.fragment with
      | some f =>
        obtain rfl : '#' = c := by simpa [hq, hf] using hc
        exact hhash
      | none => simp [hq, hf] at hc

theorem tail_of_path {u : Url} {parts : List String} (hpath : u.path = .segments parts)
    (hq : u.query = none) (hf : u.fragment = none) : u.tail = slashed parts := by
  rw [tail, hpath, hq, hf, toList_text_segments]
  simp

theorem forall_mem_slashed {p : Char → Prop} (hslash : p '/') {parts : List String}
    (h : ∀ s ∈ parts, ∀ c ∈ s.toList, p c) : ∀ c ∈ slashed parts, p c := by
  intro c hc
  obtain ⟨s, hs, hc⟩ := List.mem_flatMap.mp hc
  rcases List.mem_cons.mp hc with rfl | hc
  · exact hslash
  · exact h s hs c hc

theorem lt_of_isSegmentChar {c : Char} (h : isSegmentChar c = true) : c.toNat < 128 := by
  simp only [isSegmentChar, Bool.and_eq_true] at h
  exact lt_of_keepInPath h.1.1

theorem cases_of_isSegmentChar {c : Char} (h : isSegmentChar c = true) :
    isLow c = false ∧ c ≠ '?' ∧ c ≠ '#' :=
  Text.forall_ascii (P := fun c => isSegmentChar c = true → isLow c = false ∧ c ≠ '?' ∧ c ≠ '#')
    (by decide +kernel) (lt_of_isSegmentChar h) h

/-- The rest of an address that is nothing but a path is read as the path. -/
theorem web_slashed (scheme : String) (a : Authority) {parts : List String} (hne : parts ≠ [])
    (h : ∀ s ∈ parts, IsSegment s) : web scheme a (cleanEnd (slashed parts)) =
      ⟨scheme, some a, .segments (resolveSegments [] parts), none, none⟩ := by
  have hsafe : ∀ c ∈ slashed parts, isLow c = false ∧ c ≠ '?' ∧ c ≠ '#' :=
    forall_mem_slashed (by decide) fun s hs c hc => cases_of_isSegmentChar (h s hs c hc)
  have hcut : cutTail true (slashed parts) = (slashed parts, none, none) := by
    have hhash : '#' ∉ slashed parts := fun hc => (hsafe _ hc).2.2 rfl
    have hquestion : '?' ∉ slashed parts := fun hc => (hsafe _ hc).2.1 rfl
    simp [cutTail, Text.cutAt?_of_not_mem hhash, Text.cutAt?_of_not_mem hquestion]
  rw [cleanEnd_eq_self fun c hc => (hsafe c hc).1, web, hcut, ← pathSegments_slashed hne h]

/-- An address of the web whose authority is written with the characters of authorities only. -/
structure IsWeb (u : Url) (a : Authority) : Prop where
  scheme : IsWebScheme u.scheme
  authority : u.authority = some a
  path : ∃ cs, u.path = .segments (pathSegments true cs)
  ne_nil : a.text.toList ≠ []
  chars : ∀ c ∈ a.text.toList, isAuthorityChar c = true

theorem exists_isWeb_of_parse {given : String} {u : Url} (h : parse given = .ok u)
    (hs : IsWebScheme u.scheme) :
    ∃ a, u.IsWeb a ∧ ∃ auth, Authority.parse u.scheme auth = .ok a := by
  obtain ⟨auth, a, hparse, hauthority, hpath⟩ := cases_of_parse h hs
  exact ⟨a, ⟨hs, hauthority, hpath, Authority.text_ne_nil hs.isSpecial hparse,
    Authority.isAuthorityChar_text hs.isSpecial hparse⟩, auth, hparse⟩

theorem IsWeb.endsAuthority_tail {u : Url} {a : Authority} (h : u.IsWeb a) :
    EndsAuthority u.tail := by
  obtain ⟨_, hpath⟩ := h.path
  exact Url.endsAuthority_tail hpath

/-- Reading a web address once more is reading its authority once more. -/
theorem IsWeb.parse_text {u : Url} {a : Authority} (h : u.IsWeb a) :
    parse u.text = (Authority.parse u.scheme a.text.toList).map fun a' =>
      web u.scheme a' (cleanEnd u.tail) := by
  rw [← parse_web h.scheme h.ne_nil h.chars h.endsAuthority_tail, ← toList_text h.authority,
    String.ofList_toList]

end ApiToolbox.Url
