import ApiToolbox.Json.Parser
import ApiToolbox.Json.Printer
import ApiToolbox.Text.Blank

/-!
Responses: status, headers and body. A body is read as JSON where its media type says so or where it
begins like an object or a list; a text that is not JSON after all is kept as a text.
-/

namespace ApiToolbox

open Json (Value)

/-- A character of names in headers and media types. -/
def isTokenChar (c : Char) : Bool := c.isAlphanum || "!#$%&'*+-.^_`|~".toList.contains c

namespace MediaType

/-- The rest of a quoted value after its first character, and spaces up to the next semicolon. -/
def quotedRest? : List Char → Option (List Char)
  | [] => none
  | '"' :: r =>
    match r.dropWhile (· = ' ') with
    | [] => some []
    | ';' :: r => some r
    | _ => none
  | c :: r => if 31 < c.toNat && c.toNat ≠ 127 then quotedRest? r else none

/-- One parameter: a name, and a value that is a token or quoted. What is left follows the next
semicolon. -/
def parameter? (cs : List Char) : Option (List Char) :=
  let name := cs.takeWhile isTokenChar
  match cs.dropWhile isTokenChar with
  | '=' :: value =>
    if name = [] then none
    else
      match value with
      | '"' :: c :: r => if 31 < c.toNat && c.toNat ≠ 127 then quotedRest? r else none
      | ['"'] => none
      | value =>
        match value.dropWhile isTokenChar with
        | [] => some []
        | ';' :: r => if (value.takeWhile isTokenChar) = [] then none else some r
        | _ => none
  | _ => none

def parametersFit : Nat → List Char → Bool
  | 0, _ => false
  | fuel + 1, cs =>
    match cs.dropWhile (· = ' ') with
    | [] => true
    | cs =>
      match parameter? cs with
      | some rest => parametersFit fuel rest
      | none => false

/-- The name of a subtype in front of its last plus sign, and the suffix behind it. A plus sign at the
beginning belongs to the name. -/
def cutSuffix (subtype : List Char) : List Char × Option (List Char) :=
  let suffix := subtype.reverse.takeWhile (· ≠ '+')
  if subtype.length ≤ suffix.length + 1 then (subtype, none)
  else (subtype.take (subtype.length - suffix.length - 1), some suffix.reverse)

/-- Whether a media type is that of JSON: its subtype or its suffix says so. What is no media type is
none of JSON. -/
def isJson (text : String) : Bool :=
  match Text.cutAt? '/' text.toList with
  | none => false
  | some (type, rest) =>
    let subtype := rest.takeWhile isTokenChar
    let tail := rest.dropWhile isTokenChar
    let fits := match tail with
      | [] => true
      | ';' :: r => subtype ≠ [] && parametersFit (r.length + 1) r
      | _ => false
    if type = [] || !type.all isTokenChar || !fits then false
    else
      let (name, suffix) := cutSuffix subtype
      let isName (cs : List Char) : Bool := cs.map Char.toLower = "json".toList
      isName name || suffix.any isName

end MediaType

/-- The value of a body. White space around it does not count, and nothing is null. -/
def readResponseBody (contentType : Option String) (text : String) : Value :=
  let trimmed := Text.trimmed text
  if trimmed = "" then .null
  else
    let likeJson := trimmed.toList.head? = some '{' || trimmed.toList.head? = some '['
    if contentType.any MediaType.isJson || likeJson then
      match Json.parse trimmed with
      | .ok v => v
      | .error _ => .string trimmed
    else .string trimmed

/-- A header: a name in lower case and the bytes of its value. -/
abbrev Header := String × List UInt8

namespace Header

/-- The header of a name; `none` if the name is no token. -/
def name? (name : String) : Option String :=
  if name = "" || !name.toList.all isTokenChar then none else some (Text.asciiLower name)

/-- A byte that a value may hold: a tab, or none of the control characters. -/
def isValueByte (b : UInt8) : Bool := b = 9 || (32 ≤ b && b ≠ 127)

def text (value : List UInt8) : String := String.ofList (Text.Utf8.decodeLossy value)

/-- Each name once, where it first comes, with the texts of all its values joined by a comma and a
space. -/
def flatten (headers : List Header) : Members String :=
  headers.foldl
    (fun ms (name, value) =>
      match ms.get? name with
      | some before => ms.put name (before ++ ", " ++ text value)
      | none => ms.put name (text value))
    []

/-- The first value of a name, if it is a text of visible ASCII, spaces and tabs. -/
def visible? (headers : List Header) (name : String) : Option String :=
  match headers.find? (·.1 = name) with
  | some (_, value) =>
    if value.all fun b => b = 9 || (32 ≤ b && b < 127) then some (text value) else none
  | none => none

end Header

structure Response where
  status : Nat
  headers : List Header
  body : List UInt8
  deriving DecidableEq, Repr

namespace Response

def isSuccess (r : Response) : Bool := 200 ≤ r.status && r.status < 300

def reason : Nat → String
  | 100 => "Continue"
  | 101 => "Switching Protocols"
  | 102 => "Processing"
  | 103 => "Early Hints"
  | 200 => "OK"
  | 201 => "Created"
  | 202 => "Accepted"
  | 203 => "Non Authoritative Information"
  | 204 => "No Content"
  | 205 => "Reset Content"
  | 206 => "Partial Content"
  | 207 => "Multi-Status"
  | 208 => "Already Reported"
  | 226 => "IM Used"
  | 300 => "Multiple Choices"
  | 301 => "Moved Permanently"
  | 302 => "Found"
  | 303 => "See Other"
  | 304 => "Not Modified"
  | 305 => "Use Proxy"
  | 307 => "Temporary Redirect"
  | 308 => "Permanent Redirect"
  | 400 => "Bad Request"
  | 401 => "Unauthorized"
  | 402 => "Payment Required"
  | 403 => "Forbidden"
  | 404 => "Not Found"
  | 405 => "Method Not Allowed"
  | 406 => "Not Acceptable"
  | 407 => "Proxy Authentication Required"
  | 408 => "Request Timeout"
  | 409 => "Conflict"
  | 410 => "Gone"
  | 411 => "Length Required"
  | 412 => "Precondition Failed"
  | 413 => "Payload Too Large"
  | 414 => "URI Too Long"
  | 415 => "Unsupported Media Type"
  | 416 => "Range Not Satisfiable"
  | 417 => "Expectation Failed"
  | 418 => "I'm a teapot"
  | 421 => "Misdirected Request"
  | 422 => "Unprocessable Entity"
  | 423 => "Locked"
  | 424 => "Failed Dependency"
  | 425 => "Too Early"
  | 426 => "Upgrade Required"
  | 428 => "Precondition Required"
  | 429 => "Too Many Requests"
  | 431 => "Request Header Fields Too Large"
  | 451 => "Unavailable For Legal Reasons"
  | 500 => "Internal Server Error"
  | 501 => "Not Implemented"
  | 502 => "Bad Gateway"
  | 503 => "Service Unavailable"
  | 504 => "Gateway Timeout"
  | 505 => "HTTP Version Not Supported"
  | 506 => "Variant Also Negotiates"
  | 507 => "Insufficient Storage"
  | 508 => "Loop Detected"
  | 510 => "Not Extended"
  | 511 => "Network Authentication Required"
  | _ => ""

def data (r : Response) : Value :=
  readResponseBody (Header.visible? r.headers "content-type")
    (String.ofList (Text.Utf8.decodeLossy r.body))

end Response
end ApiToolbox
