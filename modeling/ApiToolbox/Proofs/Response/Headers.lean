import ApiToolbox.Proofs.Json.Grouping
import ApiToolbox.Proofs.Text.Pieces
import ApiToolbox.Response

/-! The headers of a response as one map. However names that come again are mixed, each stands once, where it
first comes, with the texts of all its values in order. -/

namespace ApiToolbox

namespace Header

/-- Headers name by name, in the order in which names first come. -/
def byName (headers : List Header) : List Header := Members.ungroup (Members.group headers)

/-- The text of a name with one more value. -/
def addValue : Option String → List UInt8 → String
  | none, value => text value
  | some before, value => before ++ ", " ++ text value

theorem flatten_eq_gather (headers : List Header) : flatten headers = Members.gather addValue headers := by
  rw [flatten, Members.gather]
  congr 1
  funext ms header
  cases h : ms.get? header.1 with
  | none => simp only [h, addValue]
  | some before => simp only [h, addValue]

theorem foldl_addValue (before : String) (values : List (List UInt8)) :
    values.foldl (fun before value => addValue (some before) value) before =
      ", ".intercalate (before :: values.map text) := by
  induction values generalizing before with
  | nil => exact String.intercalate_singleton.symm
  | cons value rest ih =>
    rw [List.foldl_cons, ih, List.map_cons, String.intercalate_cons_cons, addValue,
      String.intercalate_cons_append]

theorem flatten_eq_group (headers : List Header) : flatten headers =
    (Members.group headers).map fun (name, values) => (name, ", ".intercalate (values.map text)) := by
  rw [flatten_eq_gather]
  exact Members.gather_eq addValue (fun values => ", ".intercalate (values.map text))
    (fun value values => foldl_addValue (text value) values) headers

/-- Each name stands once, where it first comes, with the texts of all its values in order. So headers that
come name by name make the same map, and so do any in which names first come in the same order and have the
same values. Names that are spelled with capitals stand in lower case. -/
theorem flatten_joins_values (headers : List Header) :
    flatten headers = (headers.map (·.1)).eraseDups.map (fun name => (name, ", ".intercalate
        ((Members.valuesOf name headers).map fun value => String.ofList (Text.Utf8.decodeLossy value)))) ∧
      (flatten headers).keys.Nodup ∧
      flatten (byName headers) = flatten headers ∧
      (∀ others : List Header, (others.map (·.1)).eraseDups = (headers.map (·.1)).eraseDups →
        (∀ name, Members.valuesOf name others = Members.valuesOf name headers) →
        flatten others = flatten headers) ∧
      ((∀ h ∈ headers, ∃ spelled, name? spelled = some h.1) →
        ∀ name ∈ (flatten headers).keys, Text.asciiLower name = name) := by
  have hflatten : flatten headers = (headers.map (·.1)).eraseDups.map fun name =>
      (name, ", ".intercalate ((Members.valuesOf name headers).map text)) := by
    rw [flatten_eq_group, Members.group, List.map_map]
    rfl
  have hkeys : (flatten headers).keys = (headers.map (·.1)).eraseDups := by
    rw [hflatten, Members.keys_map_key]
  refine ⟨hflatten, hkeys ▸ Members.nodup_eraseDups _, ?_, ?_, ?_⟩
  · rw [flatten_eq_group, flatten_eq_group, byName, Members.group_ungroup]
  · intro others hnames hvalues
    rw [flatten_eq_group, flatten_eq_group, Members.group_congr hnames hvalues]
  · intro hspelled name hname
    rw [hkeys, List.mem_eraseDups] at hname
    obtain ⟨h, hh, rfl⟩ := List.mem_map.mp hname
    obtain ⟨spelled, hspelled⟩ := hspelled h hh
    rw [name?] at hspelled
    split at hspelled
    · cases hspelled
    · obtain heq := Option.some.inj hspelled
      rw [← heq, Text.asciiLower_asciiLower]

/-- Two names mixed in two ways, with an empty value, one that holds a comma, and bytes that are no text. -/
theorem flatten_joins_values_cookies :
    let headers : List Header := [("set-cookie", [97]), ("x", [255, 98]), ("set-cookie", []),
      ("x", [99, 44, 32, 100]), ("set-cookie", [98])]
    let others : List Header := [("set-cookie", [97]), ("set-cookie", []), ("x", [255, 98]),
      ("set-cookie", [98]), ("x", [99, 44, 32, 100])]
    (others.map (·.1)).eraseDups = (headers.map (·.1)).eraseDups ∧
      (∀ name, Members.valuesOf name others = Members.valuesOf name headers) ∧
      (∀ h ∈ headers, ∃ spelled, name? spelled = some h.1) ∧
      flatten others = [("set-cookie", "a, , b"), ("x", "\uFFFDb, c, d")] ∧
      ∀ name ∈ (flatten headers).keys, Text.asciiLower name = name := by
  intro headers others
  have hnames : (others.map (·.1)).eraseDups = (headers.map (·.1)).eraseDups := by decide
  have hvalues : ∀ name, Members.valuesOf name others = Members.valuesOf name headers := by
    intro name
    by_cases hcookie : "set-cookie" = name
    · subst hcookie
      decide
    · by_cases hx : "x" = name
      · subst hx
        decide
      · simp [headers, others, Members.valuesOf, hcookie, hx]
  have hspelled : ∀ h ∈ headers, ∃ spelled, name? spelled = some h.1 := by
    have hcookie : name? "Set-Cookie" = some "set-cookie" := by decide
    have hx : name? "x" = some "x" := by decide
    simpa [headers] using ⟨⟨_, hcookie⟩, ⟨_, hx⟩, ⟨_, hcookie⟩, ⟨_, hx⟩, ⟨_, hcookie⟩⟩
  obtain ⟨hjoined, -, -, hothers, hlower⟩ := flatten_joins_values headers
  refine ⟨hnames, hvalues, hspelled, ?_, hlower hspelled⟩
  rw [hothers others hnames hvalues, hjoined]
  decide +kernel

end Header
end ApiToolbox
