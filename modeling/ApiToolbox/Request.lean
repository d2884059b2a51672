import ApiToolbox.Json.Printer
import ApiToolbox.Operation
import ApiToolbox.Response
import ApiToolbox.Url

/-!
Requests: method, address, headers and body. A request carries the token of the caller and asks for
JSON; a body goes out as JSON as well.
-/

namespace ApiToolbox

open Json (Value)

namespace Base64

def digit (n : Nat) : Char :=
  if n < 26 then Char.ofNat (65 + n)
  else if n < 52 then Char.ofNat (71 + n)
  else if n < 62 then Char.ofNat (n - 4)
  else if n = 62 then '+' else '/'

/-- Three bytes give four digits; missing ones are marked. -/
def encode : List UInt8 → List Char
  | [] => []
  | [a] => let n := a.toNat * 16; [digit (n / 64), digit (n % 64), '=', '=']
  | [a, b] =>
    let n := (a.toNat * 256 + b.toNat) * 4
    [digit (n / 4096), digit (n / 64 % 64), digit (n % 64), '=']
  | a :: b :: c :: rest =>
    let n := (a.toNat * 256 + b.toNat) * 256 + c.toNat
    digit (n / 262144) :: digit (n / 4096 % 64) :: digit (n / 64 % 64) :: digit (n % 64) ::
      encode rest

end Base64

structure Request where
  method : Method
  url : Url
  token : String
  body : Option Value
  timeout : Option Nat
  deriving Repr

namespace Request

/-- The credentials in an address, as a header value. The name and the password are unescaped. -/
def basic? (u : Url) : Option String :=
  u.authority.bind fun a =>
    if a.username = "" && a.password = "" then none
    else
      some ("Basic " ++ String.ofList (Base64.encode
        (Url.percentDecode a.username.toList ++ [58] ++ Url.percentDecode a.password.toList)))

/-- The values of the authorization header: credentials in the address come before the token. -/
def authorization (r : Request) : List String :=
  (basic? r.url).toList ++ ["Bearer " ++ r.token]

def accept (_ : Request) : List String := ["application/json"]

def contentType (r : Request) : List String :=
  if r.body.isSome then ["application/json"] else []

def bodyText (r : Request) : String := (r.body.map Value.text).getD ""

/-- The address that is requested: credentials and fragment stay with the sender. -/
def target (r : Request) : Url :=
  { r.url with
    authority := r.url.authority.map fun a => { a with username := "", password := "" }
    fragment := none }

/-- Whether a request can be written at all: its token must fit into a header. -/
def isSendable (r : Request) : Bool :=
  (Text.Utf8.encode r.token.toList).all Header.isValueByte

end Request

inductive ExchangeError where
  | unsendable
  | unreachable (url : String)
  | cutShort
  deriving DecidableEq, Repr

def ExchangeError.message : ExchangeError → String
  | unsendable => "builder error"
  | unreachable url => "error sending request for url (" ++ url ++ ")"
  | cutShort => "error decoding response body"

/-- The request did not reach anyone. The address is named without credentials, query and fragment. -/
def ExchangeError.notReached (r : Request) : ExchangeError := .unreachable r.url.redacted.text

end ApiToolbox
