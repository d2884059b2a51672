import ApiToolbox.Proofs.Body
import ApiToolbox.Proofs.Json.Equality
import ApiToolbox.Proofs.Json.RoundTrip

/-! Bodies that are given as JSON text. An object may be given as such or written out, with white space around
the text; unless an equals sign makes pairs of it, the body is the same. -/

namespace ApiToolbox

open Json (Value compact compactMembers)

namespace Json

theorem getLast?_compactMembers (ms : Members Value) : (compactMembers ms).getLast? = some '}' := by
  induction ms with
  | nil => rfl
  | cons m ms ih => simp [compactMembers, List.getLast?_cons, List.getLast?_append, ih]

theorem head?_compact_object (ms : Members Value) : (compact (.object ms)).head? = some '{' := by
  cases ms <;> rfl

theorem getLast?_compact_object (ms : Members Value) :
    (compact (.object ms)).getLast? = some '}' := by
  cases ms with
  | nil => rfl
  | cons m ms => simp [compact, List.getLast?_cons, List.getLast?_append, getLast?_compactMembers]

end Json

namespace BodyForm

variable {m : Members Value}

theorem trim_text {front back : String} (hfront : Text.isBlankText front)
    (hback : Text.isBlankText back) :
    Text.trim (front ++ (Value.object m).text ++ back).toList = compact (.object m) := by
  have hhead : ∀ c ∈ (compact (.object m)).head?, Text.isBlank c = false := by
    rw [Json.head?_compact_object]
    rintro c ⟨⟩
    decide
  have hlast : ∀ c ∈ (compact (.object m)).getLast?, Text.isBlank c = false := by
    rw [Json.getLast?_compact_object]
    rintro c ⟨⟩
    decide
  rw [String.toList_append, String.toList_append, Value.text, String.toList_ofList]
  exact Text.trim_append (List.all_eq_true.mp hfront) (List.all_eq_true.mp hback) hhead hlast

/-- Without an equals sign the text of an object is taken for JSON, by its opening brace. -/
theorem ofValue_of_trim {s : String} (htrim : Text.trim s.toList = compact (.object m))
    (hequals : '=' ∉ (Value.object m).text.toList) :
    ofValue (.string s) = .ok (.json (Value.object m).text) := by
  have hhead := Json.head?_compact_object m
  have hne : compact (.object m) ≠ [] := by
    intro h
    rw [h] at hhead
    cases hhead
  rw [Value.text, String.toList_ofList] at hequals
  simp [ofValue, htrim, hne, hequals, hhead, Value.text]

end BodyForm

/-- An object may be given as its text, with any white space around it: the body that is read is the object
itself, with the same keys in the same order at every level. No object of a document has a key twice. -/
theorem readBody_text {m : Members Value} (hplain : (Value.object m).Plain 127)
    (hdistinct : (Value.object m).Distinct) (hequals : '=' ∉ (Value.object m).text.toList)
    {front back : String} (hfront : Text.isBlankText front) (hback : Text.isBlankText back)
    (required : Bool) :
    readBody (some (.string (front ++ (Value.object m).text ++ back))) required =
        .ok (some (.object m)) ∧
      readBody (some (.object m)) required = .ok (some (.object m)) := by
  have hparse : Json.parse (Value.object m).text = .ok (.object m) := Json.parse_text hplain hdistinct
  have hform : BodyForm.ofValue (.string (front ++ (Value.object m).text ++ back)) =
      .ok (.json (Value.object m).text) :=
    BodyForm.ofValue_of_trim (BodyForm.trim_text hfront hback) hequals
  have hmembers : (BodyForm.json (Value.object m).text).members = .ok m := by
    rw [BodyForm.members, hparse]
  constructor
  · rw [readBody_of_some rfl, hform]
    show ((BodyForm.json (Value.object m).text).members.map fun ms => some (Value.object ms)) = _
    rw [hmembers]
    rfl
  · rw [readBody_of_some rfl]
    rfl

/-- Keys and texts with quotes, backslashes, controls and braces, integers at both ends of their range, and
white space beyond ASCII around the text. -/
theorem readBody_text_escapes :
    let m : Members Value := [("z\"\\", .array [.int (-2 ^ 63), .int (2 ^ 64 - 1), .object []]),
      ("", .object [("\x00\x1f\n/é", .string "\x7d\x7b]\x7f"), ("b", .null), ("a", .bool false)])]
    (Value.object m).text = "\x7b\"z\\\"\\\\\":[-9223372036854775808,18446744073709551615,\x7b\x7d]," ++
        "\"\":\x7b\"\\u0000\\u001f\\n/é\":\"\x7d\x7b]\x7f\",\"b\":null,\"a\":false\x7d\x7d" ∧
      readBody (some (.string ("\u2003\n" ++ (Value.object m).text ++ "\u00a0"))) true =
        .ok (some (.object m)) ∧
      readBody (some (.object m)) true = .ok (some (.object m)) := by
  intro m
  have hplain : (Value.object m).Plain 127 := by
    refine .object (List.forall_mem_cons.mpr ⟨.array ?_, List.forall_mem_singleton.mpr (.object ?_)⟩)
    · simpa using ⟨.int (by decide) (by decide), .int (by decide) (by decide), .object (by simp)⟩
    · simpa using ⟨.string _, .null, .bool _⟩
  have hdistinct : (Value.object m).Distinct := by
    refine .object (by decide) (List.forall_mem_cons.mpr
      ⟨.array ?_, List.forall_mem_singleton.mpr (.object (by decide) ?_)⟩)
    · simpa using ⟨.number _, .number _, .object (by decide) (by simp)⟩
    · simpa using ⟨.string _, .null, .bool _⟩
  exact ⟨by decide +kernel,
    readBody_text hplain hdistinct (by decide +kernel) (by decide) (by decide) true⟩

end ApiToolbox
