import ApiToolbox.Yaml.Document

/-!
Documents are JSON or YAML texts. A text that is JSON is read as JSON, anything else as YAML.
-/

namespace ApiToolbox

open Json (Value)

/-- The value of a document text; `none` if it is neither JSON nor one YAML document. -/
def Document.parse? (text : String) : Option Value :=
  match Json.parse text with
  | .ok v => some v
  | .error _ => Yaml.parse? text

end ApiToolbox
