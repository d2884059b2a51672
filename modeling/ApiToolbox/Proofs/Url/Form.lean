import ApiToolbox.Proofs.Url.Percent
import ApiToolbox.Url.Form

/-! Form-encoded pairs in both directions. Keys and values are written without the signs that separate
them, so that reading a text of pairs gives back the pairs it was written from. -/

namespace ApiToolbox.Url.Form

/-! ### Keys and values -/

/-- A character that has no meaning of its own among form-encoded pairs. -/
def isPlainChar (c : Char) : Bool := c ≠ '+' && c ≠ '&' && c ≠ '='

theorem holdsOfEscapes_isPlainChar : HoldsOfEscapes isPlainChar := by decide

theorem isPlainChar_of_isUnreserved {c : Char} (h : isUnreserved c = true) : isPlainChar c = true := by
  have hne : c ≠ '+' ∧ c ≠ '&' ∧ c ≠ '=' := by
    refine ⟨?_, ?_, ?_⟩ <;> rintro rfl <;> exact absurd h (by decide)
  simp [isPlainChar, hne]

theorem isPlainChar_encoded (cs : List Char) :
    ∀ c ∈ percentEncode isUnreserved cs, isPlainChar c = true :=
  forall_mem_percentEncode holdsOfEscapes_isPlainChar (fun _ => isPlainChar_of_isUnreserved) cs

theorem not_mem_encoded {d : Char} (hd : isPlainChar d = false) (cs : List Char) :
    d ∉ percentEncode isUnreserved cs := by
  intro hmem
  simp [isPlainChar_encoded cs d hmem] at hd

theorem decodeComponent_encoded (cs : List Char) :
    decodeComponent (percentEncode isUnreserved cs) = String.ofList cs := by
  have hplus : ∀ c ∈ percentEncode isUnreserved cs, (if c = '+' then ' ' else c) = c := by
    intro c hc
    refine if_neg ?_
    rintro rfl
    exact not_mem_encoded (by decide) cs hc
  rw [decodeComponent, List.map_congr_left hplus, List.map_id', percentDecode_percentEncode (by decide),
    Text.Utf8.decodeLossy_encode]

/-! ### Pairs -/

theorem decodePair_encodePair (pair : String × String) : decodePair (encodePair pair) = pair := by
  have hequals := not_mem_encoded (d := '=') (by decide) pair.1.toList
  rw [decodePair, encodePair, Text.cutAt?_append_cons hequals]
  simp only [decodeComponent_encoded, String.ofList_toList]

theorem encodePair_ne_nil (pair : String × String) : encodePair pair ≠ [] := by
  simp [encodePair]

theorem not_mem_encodePair (pair : String × String) : '&' ∉ encodePair pair := by
  have hkey := not_mem_encoded (d := '&') (by decide) pair.1.toList
  have hvalue := not_mem_encoded (d := '&') (by decide) pair.2.toList
  simp [encodePair, hkey, hvalue]

/-- What is written has no white space. -/
theorem not_isBlank_of_mem_encode {pairs : List (String × String)} {c : Char}
    (h : c ∈ (encode pairs).toList) : Text.isBlank c = false := by
  have hescapes : HoldsOfEscapes fun c => !Text.isBlank c := by decide
  have hplain : ∀ c, isUnreserved c = true → (!Text.isBlank c) = true := fun c hc =>
    Text.forall_ascii (P := fun c => isUnreserved c = true → (!Text.isBlank c) = true) (by decide)
      (lt_of_isUnreserved hc) hc
  have hpiece : ∀ piece ∈ pairs.map encodePair, ∀ c ∈ piece, (!Text.isBlank c) = true := by
    intro piece hpiece c hc
    obtain ⟨pair, -, rfl⟩ := List.mem_map.mp hpiece
    rcases List.mem_append.mp hc with hc | hc
    · exact forall_mem_percentEncode hescapes hplain _ c hc
    · rcases List.mem_cons.mp hc with rfl | hc
      · decide
      · exact forall_mem_percentEncode hescapes hplain _ c hc
  rw [encode, String.toList_ofList] at h
  simpa using Text.forall_mem_intercalate (p := fun c => (!Text.isBlank c) = true) (by decide) hpiece c h

theorem equals_mem_encode {pairs : List (String × String)} (h : pairs ≠ []) :
    '=' ∈ (encode pairs).toList := by
  obtain ⟨pair, rest, rfl⟩ := List.exists_cons_of_ne_nil h
  rw [encode, String.toList_ofList, List.map_cons]
  have hpair : '=' ∈ encodePair pair := by simp [encodePair]
  cases rest with
  | nil => simpa using hpair
  | cons q r =>
    rw [List.intercalate_cons_of_ne_nil (by simp)]
    simp [hpair]

/-- Pairs are read as they were written, in order and with repeated and empty ones. -/
theorem decode_encode (pairs : List (String × String)) : decode (encode pairs) = pairs := by
  by_cases hnil : pairs = []
  · subst hnil
    rfl
  · have hand : ∀ piece ∈ pairs.map encodePair, '&' ∉ piece := by
      intro piece hpiece
      obtain ⟨pair, -, rfl⟩ := List.mem_map.mp hpiece
      exact not_mem_encodePair pair
    have hfull : (pairs.map encodePair).filter (· ≠ []) = pairs.map encodePair := by
      rw [List.filter_eq_self]
      intro piece hpiece
      obtain ⟨pair, -, rfl⟩ := List.mem_map.mp hpiece
      exact decide_eq_true (encodePair_ne_nil pair)
    rw [decode, encode, String.toList_ofList, Text.splitOn_intercalate (by simpa using hnil) hand, hfull,
      List.map_map]
    exact (List.map_congr_left fun pair _ => decodePair_encodePair pair).trans (List.map_id' pairs)

end ApiToolbox.Url.Form
