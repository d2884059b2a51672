import ApiToolbox.Proofs.Body
import ApiToolbox.Proofs.Json.Equality
import ApiToolbox.Proofs.Json.Grouping
import ApiToolbox.Proofs.Url.Form

/-! Bodies that are given as form-encoded pairs. No pair is lost: each key stands once, where it first
comes, with all of its values in order. -/

namespace ApiToolbox

open Json (Value)

/-- One value as a text, several as the list of them. -/
def Json.Value.ofTexts : List String → Value
  | [text] => .string text
  | texts => .array (texts.map .string)

/-- The object of a list of pairs: its keys in the order in which they first come, each with its values. -/
def groupedPairs (pairs : List (String × String)) : Members Value :=
  (Members.group pairs).map fun (key, texts) => (key, .ofTexts texts)

/-- The value of a key with a further text. -/
def addText : Option Value → String → Value
  | none, text => .string text
  | some (.array vs), text => .array (vs ++ [.string text])
  | some v, text => .array [v, .string text]

theorem groupPairs_eq_gather (pairs : List (String × String)) :
    groupPairs pairs = Members.gather addText pairs := by
  rw [groupPairs, Members.gather]
  congr 1
  funext ms pair
  cases h : ms.get? pair.1 with
  | none => simp only [h, addText]
  | some v => cases v <;> simp only [h, addText]

theorem foldl_addText_array (vs : List Value) (texts : List String) :
    texts.foldl (fun v text => addText (some v) text) (.array vs) =
      .array (vs ++ texts.map .string) := by
  induction texts generalizing vs with
  | nil => simp
  | cons text rest ih =>
    have hadd : addText (some (.array vs)) text = .array (vs ++ [.string text]) := rfl
    rw [List.foldl_cons, hadd, ih, List.map_cons, List.append_assoc, List.singleton_append]

theorem groupPairs_eq (pairs : List (String × String)) : groupPairs pairs = groupedPairs pairs := by
  rw [groupPairs_eq_gather]
  apply Members.gather_eq
  intro text texts
  cases texts with
  | nil => rfl
  | cons second rest => exact foldl_addText_array [.string text, .string second] rest

theorem readBody_of_equals {s : String} (h : '=' ∈ Text.trim s.toList) (required : Bool) :
    readBody (some (.string s)) required =
      .ok (some (.object (groupedPairs (Url.Form.decode (Text.trimmed s))))) := by
  have hne : Text.trim s.toList ≠ [] := List.ne_nil_of_mem h
  have hform : BodyForm.ofValue (.string s) = .ok (.pairs (Text.trimmed s)) := by
    simp [BodyForm.ofValue, hne, h, Text.trimmed]
  rw [readBody_of_some rfl, hform, ← groupPairs_eq]
  rfl

/-- A text with an equals sign is always read as a body, whether one is required or not: as the object of
its pairs. So pairs that were written come back as their object. -/
theorem readBody_pairs (required : Bool) :
    (∀ s : String, '=' ∈ Text.trim s.toList → readBody (some (.string s)) required =
      .ok (some (.object (groupedPairs (Url.Form.decode (Text.trimmed s)))))) ∧
    ∀ pairs : List (String × String), pairs ≠ [] →
      readBody (some (.string (Url.Form.encode pairs))) required =
        .ok (some (.object (groupedPairs pairs))) := by
  refine ⟨fun s h => readBody_of_equals h required, fun pairs hne => ?_⟩
  have htrim : Text.trim (Url.Form.encode pairs).toList = (Url.Form.encode pairs).toList :=
    Text.trim_eq_self fun c hc => Url.Form.not_isBlank_of_mem_encode hc
  have hequals : '=' ∈ Text.trim (Url.Form.encode pairs).toList := by
    rw [htrim]
    exact Url.Form.equals_mem_encode hne
  rw [readBody_of_equals hequals, Text.trimmed, htrim, String.ofList_toList, Url.Form.decode_encode]

/-- Keys that come again with others between them, an empty key, and blanks around the text. -/
theorem readBody_pairs_search :
    readBody (some (.string " tag=x&q=a+b%3D&tag=&=1&tag=y&q\n")) true =
      .ok (some (.object [("tag", .array [.string "x", .string "", .string "y"]),
        ("q", .array [.string "a b=", .string ""]), ("", .string "1")])) ∧
    readBody (some (.string (Url.Form.encode [("q", "a=b"), ("tag", "x&y"), ("q", "")]))) false =
      .ok (some (.object [("q", .array [.string "a=b", .string ""]), ("tag", .string "x&y")])) := by
  have hread := (readBody_pairs true).1 " tag=x&q=a+b%3D&tag=&=1&tag=y&q\n" (by decide)
  have hwritten := (readBody_pairs false).2 [("q", "a=b"), ("tag", "x&y"), ("q", "")] (by decide)
  exact ⟨hread.trans (by decide +kernel), hwritten.trans (by decide +kernel)⟩

end ApiToolbox
