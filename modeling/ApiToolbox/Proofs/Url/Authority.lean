import ApiToolbox.Proofs.Steps
import ApiToolbox.Proofs.Url.Host
import ApiToolbox.Proofs.Url.Percent
import ApiToolbox.Url

/-! The written form of an authority that was read in a web address. It is not empty and nothing in it
ends an authority, so that a reader finds its end where it stops. -/

namespace ApiToolbox.Url

/-- A character that an authority may be written with. -/
def isAuthorityChar (c : Char) : Bool :=
  0x20 < c.toNat && c.toNat < 0x7F && !endsAuthority true c

theorem isAuthorityChar_of_isHostChar {c : Char} (h : isHostChar c = true) :
    isAuthorityChar c = true := by
  simp only [isHostChar, Bool.and_eq_true, decide_eq_true_eq] at h
  simp [isAuthorityChar, endsAuthority, h]

theorem isAuthorityChar_of_keepInUserinfo {c : Char} (h : keepInUserinfo c = true) :
    isAuthorityChar c = true := by
  exact Text.forall_ascii (P := fun c => keepInUserinfo c = true → isAuthorityChar c = true)
    (by decide +kernel) (lt_of_keepInUserinfo h) h

namespace Authority

/-- What has been read of a web address: an escaped name and password, a host, and a port. -/
theorem cases_of_parse {scheme : String} (hs : isSpecialScheme scheme = true) {cs : List Char}
    {a : Authority} (h : parse scheme cs = .ok a) :
    (∃ user, a.username = String.ofList (percentEncode keepInUserinfo user)) ∧
      (∃ word, a.password = String.ofList (percentEncode keepInUserinfo word)) ∧
      (∃ host, Host.parse host = .ok a.host) ∧
      ∃ port : Option (List Char), (port.map (portNumber scheme)).getD (.ok none) = .ok a.port := by
  unfold parse at h
  simp only [hs, if_true, Bool.not_true, Bool.false_and] at h
  split at h
  · cases h
  · simp only [bind_eq_ok_iff] at h
    obtain ⟨host, hhost, port, hport, h⟩ := h
    obtain rfl := Except.ok.inj h
    exact ⟨⟨_, rfl⟩, ⟨_, rfl⟩, ⟨_, hhost⟩, ⟨_, hport⟩⟩

theorem isAuthorityChar_escaped (cs : List Char) :
    ∀ c ∈ percentEncode keepInUserinfo cs, isAuthorityChar c = true :=
  forall_mem_percentEncode (by decide) (fun _ => isAuthorityChar_of_keepInUserinfo) cs

theorem toList_userinfo (a : Authority) : a.userinfo.toList =
    if a.username = "" ∧ a.password = "" then []
    else a.username.toList ++ (if a.password = "" then [] else ':' :: a.password.toList) ++ ['@'] := by
  unfold userinfo
  split_ifs <;> simp_all

theorem toList_hostText (a : Authority) : a.hostText.toList =
    a.host.text ++ (a.port.map fun n => ':' :: Nat.toDigits 10 n).getD [] := by
  unfold hostText
  cases a.port with
  | none => simp
  | some n => simp [Nat.toList_repr]

theorem isAuthorityChar_userinfo {a : Authority}
    (hname : ∀ c ∈ a.username.toList, isAuthorityChar c = true)
    (hword : ∀ c ∈ a.password.toList, isAuthorityChar c = true) :
    ∀ c ∈ a.userinfo.toList, isAuthorityChar c = true := by
  have hcolon : isAuthorityChar ':' = true := by decide
  have hat : isAuthorityChar '@' = true := by decide
  intro c hc
  rw [toList_userinfo] at hc
  split at hc
  · simp at hc
  · simp only [List.mem_append, List.mem_singleton] at hc
    rcases hc with (hc | hc) | rfl
    · exact hname c hc
    · split at hc
      · simp at hc
      · rcases List.mem_cons.mp hc with rfl | hc
        · exact hcolon
        · exact hword c hc
    · exact hat

theorem isHostChar_hostText {a : Authority} (hhost : ∀ c ∈ a.host.text, isHostChar c = true) :
    ∀ c ∈ a.hostText.toList, isHostChar c = true := by
  intro c hc
  rw [toList_hostText] at hc
  rcases List.mem_append.mp hc with hc | hc
  · exact hhost c hc
  · cases hport : a.port with
    | none => simp [hport] at hc
    | some n =>
      rcases List.mem_cons.mp (by simpa [hport] using hc) with rfl | hc
      · decide
      · exact isHostChar_of_mem_toDigits (by omega) (by omega) c hc

theorem isAuthorityChar_text {scheme : String} (hs : isSpecialScheme scheme = true)
    {cs : List Char} {a : Authority} (h : parse scheme cs = .ok a) :
    ∀ c ∈ a.text.toList, isAuthorityChar c = true := by
  obtain ⟨⟨user, huser⟩, ⟨word, hword⟩, ⟨host, hhost⟩, -⟩ := cases_of_parse hs h
  intro c hc
  rw [text, String.toList_append, List.mem_append] at hc
  rcases hc with hc | hc
  · refine isAuthorityChar_userinfo ?_ ?_ c hc
    · simpa [huser] using isAuthorityChar_escaped user
    · simpa [hword] using isAuthorityChar_escaped word
  · exact isAuthorityChar_of_isHostChar (isHostChar_hostText (Host.isHostChar_text hhost) c hc)

theorem text_ne_nil {scheme : String} (hs : isSpecialScheme scheme = true)
    {cs : List Char} {a : Authority} (h : parse scheme cs = .ok a) : a.text.toList ≠ [] := by
  obtain ⟨-, -, ⟨host, hhost⟩, -⟩ := cases_of_parse hs h
  simp [text, toList_hostText, Host.text_ne_nil hhost]

/-! ### Without name and password -/

/-- Nobody is named in front of the host. -/
def IsBare (a : Authority) : Prop := a.username = "" ∧ a.password = ""

theorem cutUserinfo_of_not_mem {cs : List Char} (h : '@' ∉ cs) : cutUserinfo cs = (none, cs) := by
  have hall : cs.reverse.takeWhile (· ≠ '@') = cs.reverse := by
    rw [List.takeWhile_eq_self_iff]
    intro c hc
    have hne : c ≠ '@' := fun heq => h (heq ▸ List.mem_reverse.mp hc)
    simpa using hne
  simp only [cutUserinfo, hall, List.length_reverse, if_true]

theorem isBare_of_parse {scheme : String} (hs : isSpecialScheme scheme = true) {cs : List Char}
    {a : Authority} (h : parse scheme cs = .ok a) (hat : '@' ∉ cs) : a.IsBare := by
  unfold parse at h
  simp only [hs, if_true, Bool.not_true, Bool.false_and, cutUserinfo_of_not_mem hat] at h
  split at h
  · cases h
  · simp only [bind_eq_ok_iff] at h
    obtain ⟨host, -, port, -, h⟩ := h
    obtain rfl := Except.ok.inj h
    exact ⟨rfl, rfl⟩

theorem IsBare.text_eq {a : Authority} (h : a.IsBare) : a.text = a.hostText := by
  simp [text, userinfo, h.1, h.2]

/-- An authority that names nobody does not name anybody when it is read once more. -/
theorem IsBare.of_parse_text {scheme : String} (hs : isSpecialScheme scheme = true)
    {cs : List Char} {a a' : Authority} (hbare : a.IsBare) (h : parse scheme cs = .ok a)
    (hagain : parse scheme a.text.toList = .ok a') : a'.IsBare := by
  obtain ⟨-, -, ⟨host, hhost⟩, -⟩ := cases_of_parse hs h
  refine isBare_of_parse hs hagain fun hat => ?_
  rw [hbare.text_eq] at hat
  have hchar := isHostChar_hostText (Host.isHostChar_text hhost) '@' hat
  revert hchar
  decide

end Authority
end ApiToolbox.Url
