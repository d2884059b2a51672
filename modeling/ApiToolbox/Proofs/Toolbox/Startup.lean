import ApiToolbox.Proofs.Index.Termination
import ApiToolbox.Toolbox

/-! What stops a toolbox from being built: a base address that cannot be one, an index that cannot be read,
and an index that has changed when the settings insist that it has not. All else that can be wrong with an
index is left out of the toolbox. -/

namespace ApiToolbox.Toolbox

/-- The base address as it is given: by the variable unless that is blank, else by the settings, else the
default one. -/
def givenBaseUrl (s : Settings) (e : Environment) : String :=
  match e.nonBlank? s.baseUrlVariable with
  | some given => given
  | none => s.baseUrl.getD Settings.defaultBaseUrl

/-- The settings insist on a digest, which the text does not have. -/
structure Insists (s : Settings) (text expected : String) : Prop where
  policy : s.digestPolicy = .fail
  given : s.digest = some expected
  differs : Text.asciiLower (Text.trimmed expected) ≠ Text.asciiLower (Index.digest text)

/-- What stops a toolbox from being built, and the failure that tells it. A cause is told only where none of
those in front of it holds. -/
inductive Stops (s : Settings) (e : Environment) (t : FileTree) : Failure → Prop where
  | baseUrl {cause : BaseUrlError} (h : BaseUrl.parse (givenBaseUrl s e) = .error cause) :
      Stops s e t (.baseUrl (givenBaseUrl s e) cause)
  | unreadable {u : Url} {cause : FileError} (hbase : BaseUrl.parse (givenBaseUrl s e) = .ok u)
      (h : t.read s.index = .error cause) : Stops s e t (.indexUnreadable s.index cause)
  | changed {u : Url} {text expected : String} (hbase : BaseUrl.parse (givenBaseUrl s e) = .ok u)
      (htext : t.read s.index = .ok text) (h : Insists s text expected) :
      Stops s e t (.indexChanged expected (Index.digest text))

variable {s : Settings} {e : Environment} {t : FileTree} {u : Url} {text : String}

theorem readBaseUrl_eq (s : Settings) (e : Environment) : readBaseUrl s e =
    (BaseUrl.parse (givenBaseUrl s e)).mapError (.baseUrl (givenBaseUrl s e)) := by
  unfold readBaseUrl givenBaseUrl
  cases e.nonBlank? s.baseUrlVariable with
  | some given => rfl
  | none => rfl

theorem build_of_parse_error {cause : BaseUrlError}
    (h : BaseUrl.parse (givenBaseUrl s e) = .error cause) :
    build s e t = .error (.baseUrl (givenBaseUrl s e) cause) := by
  rw [build, readBaseUrl_eq, h]
  rfl

theorem build_of_read_error {cause : FileError} (hbase : BaseUrl.parse (givenBaseUrl s e) = .ok u)
    (h : t.read s.index = .error cause) : build s e t = .error (.indexUnreadable s.index cause) := by
  rw [build, readBaseUrl_eq, hbase, readIndex, h]
  rfl

theorem build_of_insists {expected : String} (hbase : BaseUrl.parse (givenBaseUrl s e) = .ok u)
    (htext : t.read s.index = .ok text) (h : Insists s text expected) :
    build s e t = .error (.indexChanged expected (Index.digest text)) := by
  have hnot : Index.hasDigest text expected = false := by
    rw [Index.hasDigest]
    exact decide_eq_false h.differs.symm
  have hindex : readIndex s t = .error (.indexChanged expected (Index.digest text)) := by
    simp [readIndex, htext, h.given, h.policy, hnot]
  rw [build, readBaseUrl_eq, hbase, hindex]
  rfl

/-- The toolbox that is built unless something stops it. Neither the digest of the settings nor what they
do about it is in it. -/
def ofText (s : Settings) (t : FileTree) (u : Url) (text : String) : Toolbox where
  registry := Registry.build (Index.ofText t s.index text) s.discovery
  baseUrl := u
  tokenVariables := s.tokenVariables
  timeout := s.timeoutSeconds.filter (0 < ·)

theorem build_eq_ok (hbase : BaseUrl.parse (givenBaseUrl s e) = .ok u) (htext : t.read s.index = .ok text)
    (h : ∀ expected, ¬ Insists s text expected) : build s e t = .ok (ofText s t u text) := by
  have hindex : readIndex s t = .ok (Index.ofText t s.index text) := by
    simp only [readIndex, htext]
    cases hdigest : s.digest with
    | none => rfl
    | some expected =>
      simp only
      rw [if_neg]
      intro hcond
      obtain ⟨hpolicy, hnot⟩ := (Bool.and_eq_true _ _).mp hcond
      refine h expected ⟨by simpa using hpolicy, hdigest, fun hsame => ?_⟩
      simp [Index.hasDigest, hsame] at hnot
  rw [build, readBaseUrl_eq, hbase, hindex]
  rfl

/-- Either a toolbox is built and nothing stops it, or what stops it is what is reported. -/
theorem build_cases (s : Settings) (e : Environment) (t : FileTree) :
    (∃ f, build s e t = .error f ∧ Stops s e t f) ∨
      ∃ u text, BaseUrl.parse (givenBaseUrl s e) = .ok u ∧ t.read s.index = .ok text ∧
        (∀ expected, ¬ Insists s text expected) ∧ build s e t = .ok (ofText s t u text) := by
  cases hbase : BaseUrl.parse (givenBaseUrl s e) with
  | error cause => exact .inl ⟨_, build_of_parse_error hbase, .baseUrl hbase⟩
  | ok u =>
    cases htext : t.read s.index with
    | error cause => exact .inl ⟨_, build_of_read_error hbase htext, .unreadable hbase htext⟩
    | ok text =>
      by_cases h : ∃ expected, Insists s text expected
      · obtain ⟨expected, h⟩ := h
        exact .inl ⟨_, build_of_insists hbase htext h, .changed hbase htext h⟩
      · have hnone := not_exists.mp h
        exact .inr ⟨u, text, rfl, rfl, hnone, build_eq_ok hbase htext hnone⟩

theorem build_eq_error_iff (f : Failure) : build s e t = .error f ↔ Stops s e t f := by
  constructor
  · intro hbuild
    rcases build_cases s e t with ⟨g, hg, hstops⟩ | ⟨u, text, -, -, -, hok⟩
    · obtain rfl := Except.error.inj (hbuild.symm.trans hg)
      exact hstops
    · cases hbuild.symm.trans hok
  · intro hstops
    cases hstops with
    | baseUrl h => exact build_of_parse_error h
    | unreadable hbase h => exact build_of_read_error hbase h
    | changed hbase htext h => exact build_of_insists hbase htext h

/-- What decides whether a toolbox can be built, and what is in it then. -/
structure Startup (s : Settings) (e : Environment) (t : FileTree) : Prop where
  /-- There are three causes, each of which is enough. -/
  fails : (∃ f, build s e t = .error f) ↔
    (∃ cause, BaseUrl.parse (givenBaseUrl s e) = .error cause) ∨
    (∃ cause, t.read s.index = .error cause) ∨
    ∃ text expected, t.read s.index = .ok text ∧ Insists s text expected
  /-- The first of them is reported. -/
  reports : ∀ f, build s e t = .error f ↔ Stops s e t f
  /-- Without a cause a toolbox is built. Its operations are those of the one outcome that the load of the
  index has, by rules that know no limit for a chain of references. -/
  succeeds : ∀ u text, BaseUrl.parse (givenBaseUrl s e) = .ok u → t.read s.index = .ok text →
    (∀ expected, ¬ Insists s text expected) →
    ∃ b docs, build s e t = .ok b ∧ b.baseUrl = u ∧ b.registry = Registry.build docs s.discovery ∧
      (Index.ofTextWith Index.Source.follows t s.index text).run = {docs}
  /-- The digest of the settings, and what they do about it, do not show in a toolbox. -/
  digest : ∀ digest policy b b', build s e t = .ok b →
    build { s with digest := digest, digestPolicy := policy } e t = .ok b' → b' = b

theorem fails_iff (s : Settings) (e : Environment) (t : FileTree) : (∃ f, build s e t = .error f) ↔
    (∃ cause, BaseUrl.parse (givenBaseUrl s e) = .error cause) ∨
    (∃ cause, t.read s.index = .error cause) ∨
    ∃ text expected, t.read s.index = .ok text ∧ Insists s text expected := by
  constructor
  · rintro ⟨f, hf⟩
    cases (build_eq_error_iff f).mp hf with
    | baseUrl h => exact .inl ⟨_, h⟩
    | unreadable _ h => exact .inr (.inl ⟨_, h⟩)
    | changed _ htext h => exact .inr (.inr ⟨_, _, htext, h⟩)
  · intro hcause
    rcases build_cases s e t with ⟨f, hf, -⟩ | ⟨u, text, hbase, htext, hnone, -⟩
    · exact ⟨f, hf⟩
    · rcases hcause with ⟨cause, h⟩ | ⟨cause, h⟩ | ⟨text', expected, h, hinsists⟩
      · cases hbase.symm.trans h
      · cases htext.symm.trans h
      · obtain rfl := Except.ok.inj (htext.symm.trans h)
        exact absurd hinsists (hnone expected)

theorem exists_of_build_eq_ok {b : Toolbox} (h : build s e t = .ok b) : ∃ u text,
    BaseUrl.parse (givenBaseUrl s e) = .ok u ∧ t.read s.index = .ok text ∧ b = ofText s t u text := by
  rcases build_cases s e t with ⟨f, hf, -⟩ | ⟨u, text, hbase, htext, -, hok⟩
  · cases h.symm.trans hf
  · exact ⟨u, text, hbase, htext, Except.ok.inj (h.symm.trans hok)⟩

/-- Only three things stop a toolbox from being built, whatever stands in the files. -/
theorem startup (s : Settings) (e : Environment) (t : FileTree) : Startup s e t where
  fails := fails_iff s e t
  reports := build_eq_error_iff
  succeeds u text hbase htext hnone :=
    ⟨_, _, build_eq_ok hbase htext hnone, rfl, rfl, Index.run_ofTextWith_follows t s.index text⟩
  digest digest policy b b' hb hb' := by
    obtain ⟨u, text, hbase, htext, rfl⟩ := exists_of_build_eq_ok hb
    obtain ⟨u', text', hbase', htext', rfl⟩ := exists_of_build_eq_ok hb'
    obtain rfl := Except.ok.inj (hbase.symm.trans hbase')
    obtain rfl := Except.ok.inj (htext.symm.trans htext')
    rfl

-- An index that is neither JSON nor YAML stops nothing.
example : (build { index := "/index.yaml" } ⟨[]⟩ ⟨[(["index.yaml"], .file [123])], []⟩).map rows =
    .ok [] := by decide +kernel

end ApiToolbox.Toolbox
