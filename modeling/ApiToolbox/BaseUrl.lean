import ApiToolbox.Text.Blank
import ApiToolbox.Url

/-!
The address that all requests begin with: a web address with a host.
-/

namespace ApiToolbox

inductive BaseUrlError where
  | malformed (cause : Url.Error)
  | unsupportedScheme (scheme : String)
  | missingHost
  deriving DecidableEq, Repr

def BaseUrlError.message : BaseUrlError → String
  | malformed cause => cause.message
  | unsupportedScheme scheme => "unsupported scheme '" ++ scheme ++ "'"
  | missingHost => "missing host"

def BaseUrlError.report (given : String) (e : BaseUrlError) : String :=
  "Invalid base URL '" ++ given ++ "': " ++ e.message

/-- Read a base address; surrounding white space does not count. -/
def BaseUrl.parse (given : String) : Except BaseUrlError Url :=
  match Url.parse (Text.trimmed given) with
  | .error e => .error (.malformed e)
  | .ok u =>
    if u.scheme ≠ "http" && u.scheme ≠ "https" then .error (.unsupportedScheme u.scheme)
    else if u.authority.isNone then .error .missingHost
    else .ok u

end ApiToolbox
