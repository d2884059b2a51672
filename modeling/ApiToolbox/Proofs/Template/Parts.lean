import ApiToolbox.Proofs.Template

/-! The parts of any template. Its placeholders are those that scanning finds; all other text is literal, an
empty pair of braces and a brace that is never closed included. -/

namespace ApiToolbox.Template

/-- The parts of a text, with the part read so far of a name whose closing brace has not come yet, in
reverse. -/
def partsFrom : Option (List Char) → List Char → List Part
  | none, [] => []
  | some name, [] => [.literal (String.ofList ('{' :: name.reverse))]
  | none, c :: r =>
    if c = '{' then partsFrom (some []) r else .literal (String.ofList [c]) :: partsFrom none r
  | some name, c :: r =>
    if c = '}' then
      (if name = [] then .literal "\x7b\x7d" else .slot (String.ofList name.reverse)) :: partsFrom none r
    else partsFrom (some (c :: name)) r

/-- The parts of a template. -/
def parts (template : String) : List Part := partsFrom none template.toList

/-- The text of a name whose closing brace has not come yet. -/
def opened : Option (List Char) → List Char
  | none => []
  | some name => '{' :: name.reverse

theorem source_partsFrom (pending : Option (List Char)) (cs : List Char) :
    (partsFrom pending cs).flatMap Part.source = opened pending ++ cs := by
  induction cs generalizing pending with
  | nil =>
    cases pending with
    | none => rfl
    | some name => simp [partsFrom, Part.source, opened]
  | cons c r ih =>
    cases pending with
    | none =>
      rw [partsFrom]
      split
      · next hopen =>
        rw [ih, hopen]
        rfl
      · rw [List.flatMap_cons, ih, Part.source, String.toList_ofList]
        rfl
    | some name =>
      rw [partsFrom]
      split
      · next hclose =>
        rw [List.flatMap_cons, ih, hclose]
        split
        · next hempty => simp [Part.source, opened, hempty]
        · simp [Part.source, opened, placeholder]
      · rw [ih]
        simp [opened]

/-- A template is written from its parts. -/
theorem source_parts (template : String) : (parts template).flatMap Part.source = template.toList :=
  source_partsFrom none template.toList

theorem slots_partsFrom (pending : Option (List Char)) (cs : List Char) :
    slots (partsFrom pending cs) = (scan pending cs).map String.ofList := by
  induction cs generalizing pending with
  | nil => cases pending <;> rfl
  | cons c r ih =>
    cases pending with
    | none =>
      rw [partsFrom, scan]
      split
      · exact ih (some [])
      · rw [slots_literal, ih]
    | some name =>
      simp only [partsFrom, scan]
      split
      · split
        · rw [slots_literal, ih]
        · rw [slots_slot, ih, List.map_cons]
      · exact ih _

theorem slots_parts (template : String) : slots (parts template) = placeholders template :=
  slots_partsFrom none template.toList

theorem legible_partsFrom {pending : Option (List Char)} {cs : List Char}
    (hpending : ∀ name ∈ pending, '}' ∉ name) (h : ∀ name ∈ scan pending cs, '{' ∉ name) :
    Legible (partsFrom pending cs) := by
  induction cs generalizing pending with
  | nil =>
    cases pending with
    | none => exact .nil
    | some name =>
      refine .unclosed ?_
      simpa using hpending name rfl
  | cons c r ih =>
    cases pending with
    | none =>
      rw [partsFrom]
      rw [scan] at h
      split
      · next hopen =>
        rw [if_pos hopen] at h
        exact ih (by simp) h
      · next hopen =>
        rw [if_neg hopen] at h
        exact .literal (by simpa using Ne.symm hopen) (ih (by simp) h)
    | some name =>
      simp only [partsFrom]
      simp only [scan] at h
      split
      · next hclose =>
        rw [if_pos hclose] at h
        split
        · next hempty =>
          rw [if_pos hempty] at h
          exact .braces (ih (by simp) h)
        · next hempty =>
          rw [if_neg hempty, List.forall_mem_cons] at h
          refine .slot ⟨?_, ?_, ?_⟩ (ih (by simp) h.2)
          · simpa using hempty
          · simpa using h.1
          · simpa using hpending name rfl
      · next hclose =>
        rw [if_neg hclose] at h
        refine ih ?_ h
        simpa [Ne.symm hclose] using hpending name rfl

/-- The parts of a template can be told apart if no name has an opening brace. -/
theorem legible_parts {template : String} (h : ∀ n ∈ placeholders template, '{' ∉ n.toList) :
    Legible (parts template) := by
  refine legible_partsFrom (by simp) fun name hname => ?_
  simpa using h _ (List.mem_map_of_mem hname)

end ApiToolbox.Template
