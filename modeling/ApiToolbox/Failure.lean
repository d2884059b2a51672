import ApiToolbox.BaseUrl
import ApiToolbox.Body
import ApiToolbox.FileTree
import ApiToolbox.InputSchema
import ApiToolbox.Reference
import ApiToolbox.Request
import ApiToolbox.RequestUrl

/-!
Failures: all that can go wrong between the settings and the response, each with its cause. The kind of
a failure says who is to act; its report is the message.
-/

namespace ApiToolbox

inductive Failure where
  | baseUrl (given : String) (cause : BaseUrlError)
  | indexUnreadable (path : String) (cause : FileError)
  | indexChanged (expected actual : String)
  | noToken (names : List String)
  | unknownTool (name : String)
  | arguments (cause : ArgumentError)
  | url (cause : RequestUrlError)
  | body (cause : BodyError)
  | reference (cause : ReferenceError)
  | malformedDocument
  | exchange (cause : ExchangeError)
  deriving DecidableEq, Repr

namespace Failure

inductive Kind where
  | config
  | input
  | indexRead
  | load
  | request
  | yaml
  deriving DecidableEq, Repr

def kind : Failure → Kind
  | baseUrl .. => .config
  | indexUnreadable .. => .indexRead
  | indexChanged .. => .config
  | noToken _ => .config
  | unknownTool _ => .input
  | arguments _ => .input
  | url _ => .input
  | body _ => .input
  | reference _ => .load
  | malformedDocument => .yaml
  | exchange _ => .request

def Kind.name : Kind → String
  | config => "Config"
  | input => "Input"
  | indexRead => "IndexRead"
  | load => "Load"
  | request => "Request"
  | yaml => "Yaml"

def message : Failure → String
  | baseUrl given cause => cause.report given
  | indexUnreadable path cause =>
    "Failed to read index document '" ++ path ++ "': " ++ cause.message
  | indexChanged expected actual =>
    "Spec hash mismatch. Expected: " ++ expected ++ ", Got: " ++ actual
  | noToken names =>
    "No API token found. Set one of: " ++ String.intercalate ", " names
  | unknownTool name => "Unknown tool: " ++ name
  | arguments cause => cause.message
  | url cause => cause.message
  | body cause => cause.message
  | reference cause => cause.message
  | malformedDocument => "YAML error"
  | exchange cause => cause.message

/-- The message behind the words for its kind. -/
def report (f : Failure) : String :=
  match f.kind with
  | .config => "Configuration error: " ++ f.message
  | .input => "Invalid input: " ++ f.message
  | .indexRead => f.message
  | .load => "Load error: " ++ f.message
  | .request => "Request error: " ++ f.message
  | .yaml => f.message

end Failure
end ApiToolbox
