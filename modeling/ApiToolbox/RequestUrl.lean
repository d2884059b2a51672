import ApiToolbox.BaseUrl
import ApiToolbox.Json.Printer
import ApiToolbox.Operation
import ApiToolbox.Template
import ApiToolbox.Url.Form

/-!
The address of a request: the base address, the path template with its placeholders filled, and the
query. Values are escaped where they are put in, so that they stay within their place.
-/

namespace ApiToolbox

open Json (Value)

def Json.Value.addressText : Value → String
  | .null => ""
  | .string s => s
  | .number n => n.text
  | .bool b => if b then "true" else "false"
  | v => v.text

inductive RequestUrlError where
  | missingPath (name : String)
  | malformed (tool : String) (cause : Url.Error)
  deriving DecidableEq, Repr

def RequestUrlError.message : RequestUrlError → String
  | missingPath name => "Missing required path parameter: " ++ name
  | malformed tool cause => "Cannot build request URL for '" ++ tool ++ "': " ++ cause.message

namespace RequestUrl

/-- The text of a path parameter; none if it is null or empty. -/
def pathText? (args : Members Value) (name : String) : Option String :=
  (((args.get? name).filter (!·.isNull)).map Value.addressText).filter (· ≠ "")

/-- Fill in the parameters one after the other, each at the first of its placeholders. -/
def fill (args : Members Value) :
    List Parameter → List Char → Except RequestUrlError (List Char)
  | [], path => .ok path
  | p :: rest, path =>
    match pathText? args p.name with
    | none => .error (.missingPath p.name)
    | some text =>
      fill args rest (Template.fillFirst p.name (Url.encodeComponent text).toList path)

def path (op : Operation) (args : Members Value) : Except RequestUrlError String :=
  (fill args op.pathParams op.path.toList).map String.ofList

/-- The query pairs of a value: none for null, one for each item of a list that is not null, one with
the JSON text of an object, and one for a scalar. -/
def pairs (key : String) : Value → List (String × String)
  | .null => []
  | .array vs => (vs.filter (!·.isNull)).map fun v => (key, v.addressText)
  | v => [(key, v.addressText)]

/-- The query pairs of a request, by the order of the parameters. -/
def queryPairs (op : Operation) (args : Members Value) : List (String × String) :=
  op.queryParams.flatMap fun p => ((args.get? p.name).map (pairs p.name)).getD []

/-- Put a path behind the text of an address, with one slash between them. -/
def append (base path : String) : String :=
  let base := String.ofList (Text.dropEndWhile (· = '/') base.toList)
  if path.toList.head? = some '/' then base ++ path else base ++ "/" ++ path

def build (base : Url) (op : Operation) (args : Members Value) : Except RequestUrlError Url := do
  let path ← path op args
  match Url.parse (append base.text path) with
  | .error e => .error (.malformed op.tool e)
  | .ok u =>
    let pairs := queryPairs op args
    .ok (if pairs = [] then u else u.withQuery (Url.Form.encode pairs))

end RequestUrl
end ApiToolbox
