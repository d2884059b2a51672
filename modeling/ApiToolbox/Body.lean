import ApiToolbox.Json.Parser
import ApiToolbox.Url.Form

/-!
The body of a request, which is an object: given as such, as its JSON text, or as form-encoded pairs. A
text with an equals sign is always read as pairs.
-/

namespace ApiToolbox

open Json (Value)

inductive BodyError where
  | missing
  | blank
  | malformed
  | notObject
  | invalidJson (cause : Json.Refusal)
  deriving DecidableEq, Repr

def BodyError.message : BodyError → String
  | missing => "Request body is required for this operation"
  | blank => "Request body string is empty"
  | malformed => "Request body string is malformed: expected a JSON object or form-encoded pairs"
  | notObject => "Request body must be a JSON object"
  | invalidJson cause => "Request body is not valid JSON: " ++ cause.message

inductive BodyForm where
  | object (members : Members Value)
  | json (text : String)
  | pairs (text : String)
  deriving Repr

/-- Collect the values of each key, in the order in which keys come first. A key that comes once has
its value, one that comes again the list of its values. -/
def groupPairs (pairs : List (String × String)) : Members Value :=
  pairs.foldl
    (fun ms (key, text) =>
      match ms.get? key with
      | none => ms.put key (.string text)
      | some (.array vs) => ms.put key (.array (vs ++ [.string text]))
      | some v => ms.put key (.array [v, .string text]))
    []

namespace BodyForm

def ofValue : Value → Except BodyError BodyForm
  | .object ms => .ok (.object ms)
  | .string s =>
    let cs := Text.trim s.toList
    if cs = [] then .error .blank
    else if cs.contains '=' then .ok (.pairs (String.ofList cs))
    else if cs.head? = some '{' || cs.head? = some '[' then .ok (.json (String.ofList cs))
    else .error .malformed
  | _ => .error .notObject

def members : BodyForm → Except BodyError (Members Value)
  | .object ms => .ok ms
  | .json text =>
    match Json.parse text with
    | .ok (.object ms) => .ok ms
    | .ok _ => .error .notObject
    | .error e => .error (.invalidJson e)
  | .pairs text => .ok (groupPairs (Url.Form.decode text))

end BodyForm

/-- The body of a request from its argument; null counts as absent. -/
def readBody (arg : Option Value) (required : Bool) : Except BodyError (Option Value) :=
  match arg.filter (!·.isNull) with
  | none => if required then .error .missing else .ok none
  | some v => do
    let form ← BodyForm.ofValue v
    return some (.object (← form.members))

end ApiToolbox
