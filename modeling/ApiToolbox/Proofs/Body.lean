import ApiToolbox.Body
import ApiToolbox.Proofs.Steps

/-! What comes of the argument of a body: an object, nothing, or a refusal. A body is missing only where
no argument is given for it. -/

namespace ApiToolbox

open Json (Value)

namespace BodyForm

theorem ofValue_ne_missing (v : Value) : ofValue v ≠ .error .missing := by
  cases v with
  | string s =>
    simp only [ofValue]
    split_ifs <;> simp
  | object ms => simp [ofValue]
  | _ => simp [ofValue]

theorem members_ne_missing (form : BodyForm) : form.members ≠ .error .missing := by
  cases form with
  | object ms => simp [members]
  | pairs text => simp [members]
  | json text =>
    rw [members]
    cases Json.parse text with
    | error cause => simp
    | ok v => cases v <;> simp

end BodyForm

variable {arg : Option Value} {required : Bool}

theorem readBody_of_some {v : Value} (h : arg.filter (!·.isNull) = some v) :
    readBody arg required =
      (BodyForm.ofValue v >>= BodyForm.members).map fun ms => some (.object ms) := by
  simp only [readBody, h]
  cases BodyForm.ofValue v with
  | error cause => rfl
  | ok form =>
    simp only [bind, Except.bind]
    cases form.members with
    | error cause => rfl
    | ok ms => rfl

/-- A body that is read is an object. -/
theorem exists_object_of_readBody {v : Value} (h : readBody arg required = .ok (some v)) :
    ∃ ms, v = .object ms := by
  cases harg : arg.filter (!·.isNull) with
  | none =>
    simp only [readBody, harg] at h
    split at h
    · cases h
    · cases h
  | some w =>
    rw [readBody_of_some harg, map_eq_ok_iff] at h
    obtain ⟨ms, -, hms⟩ := h
    exact ⟨ms, (Option.some.inj hms).symm⟩

theorem readBody_eq_missing_iff : readBody arg required = .error .missing ↔
    arg.filter (!·.isNull) = none ∧ required = true := by
  cases harg : arg.filter (!·.isNull) with
  | none => cases required <;> simp [readBody, harg]
  | some v =>
    rw [readBody_of_some harg]
    cases hform : BodyForm.ofValue v with
    | error cause =>
      have hne : cause ≠ .missing := by
        rintro rfl
        exact BodyForm.ofValue_ne_missing v hform
      simpa [bind, Except.bind, Except.map] using hne
    | ok form =>
      cases hms : form.members with
      | error cause =>
        have hne : cause ≠ .missing := by
          rintro rfl
          exact BodyForm.members_ne_missing form hms
        simpa [bind, Except.bind, Except.map, hms] using hne
      | ok ms => simp [bind, Except.bind, Except.map, hms]

end ApiToolbox
