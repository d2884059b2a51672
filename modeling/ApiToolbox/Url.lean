import ApiToolbox.Url.Host

/-!
Addresses: scheme, authority, path, query and fragment, each held in its escaped form. `Url.parse` reads
an absolute address: surrounding blanks, tabs and line breaks do not count, a backslash is a slash in
the special schemes, dot segments are resolved and default ports dropped. `Url.text` writes it.
-/

namespace ApiToolbox

/-- Who is addressed, and by whom. The user name and password are escaped; without either there is no
`@`. -/
structure Url.Authority where
  username : String
  password : String
  host : Url.Host
  port : Option Nat
  deriving DecidableEq, Repr

/-- The path: its segments, or the text of an address without hierarchy. -/
inductive Url.Path where
  | segments (parts : List String)
  | flat (text : String)
  deriving DecidableEq, Repr

structure Url where
  scheme : String
  authority : Option Url.Authority
  path : Url.Path
  query : Option String
  fragment : Option String
  deriving DecidableEq, Repr

namespace Url

/-- Schemes whose addresses always have a host and whose backslashes are slashes. -/
def isSpecialScheme (scheme : String) : Bool :=
  scheme ∈ ["http", "https", "ws", "wss", "ftp", "file"]

def defaultPort? : String → Option Nat
  | "http" => some 80
  | "ws" => some 80
  | "https" => some 443
  | "wss" => some 443
  | "ftp" => some 21
  | _ => none

/-! ### Writing -/

def Authority.userinfo (a : Authority) : String :=
  let password := if a.password = "" then "" else ":" ++ a.password
  if a.username = "" && a.password = "" then "" else a.username ++ password ++ "@"

def Authority.hostText (a : Authority) : String :=
  String.ofList a.host.text ++
    match a.port with
    | some n => ":" ++ toString n
    | none => ""

def Authority.text (a : Authority) : String := a.userinfo ++ a.hostText

def Path.text : Path → String
  | .segments parts => String.join (parts.map ("/" ++ ·))
  | .flat text => text

/-- The address without its query and fragment. -/
def stem (u : Url) : String :=
  u.scheme ++ ":" ++
    (match u.authority with
      | some a => "//" ++ a.text
      | none => if u.scheme = "file" then "//" else "") ++
    u.path.text

def text (u : Url) : String :=
  u.stem ++
    (match u.query with
      | some q => "?" ++ q
      | none => "") ++
    match u.fragment with
    | some f => "#" ++ f
    | none => ""

/-- The address without user name, password, query and fragment. -/
def redacted (u : Url) : Url :=
  { u with
    authority := u.authority.map fun a => { a with username := "", password := "" }
    query := none
    fragment := none }

def withQuery (u : Url) (query : String) : Url := { u with query := some query }

/-! ### Reading -/

/-- Drop control characters and spaces at both ends, and tabs and line breaks anywhere. -/
def clean (cs : List Char) : List Char :=
  (Text.dropEndWhile (·.toNat ≤ 0x20) (cs.dropWhile (·.toNat ≤ 0x20))).filter
    fun c => !(c = '\t' || c = '\n' || c = '\r')

/-- Read the scheme in front of the first colon, in lower case. -/
def scheme? (cs : List Char) : Option (String × List Char) :=
  match Text.cutAt? ':' cs with
  | some (name, rest) =>
    let fits (c : Char) : Bool := c.isAlphanum || c = '+' || c = '-' || c = '.'
    if name.head?.any Char.isAlpha && name.all fits then
      some (String.ofList (name.map Char.toLower), rest)
    else none
  | none => none

/-- The end of an authority or of a part of it. -/
def endsAuthority (special : Bool) (c : Char) : Bool :=
  c = '/' || c = '?' || c = '#' || (special && c = '\\')

/-- Cut an authority at its last `@`. -/
def cutUserinfo (authority : List Char) : Option (List Char) × List Char :=
  let host := authority.reverse.takeWhile (· ≠ '@')
  if host.length = authority.length then (none, authority)
  else (some (authority.take (authority.length - host.length - 1)), host.reverse)

def credentials (cs : List Char) : String × String :=
  let (name, word) := (Text.cutAt? ':' cs).getD (cs, [])
  let escape (cs : List Char) : String := String.ofList (percentEncode keepInUserinfo cs)
  (escape name, escape word)

/-- Cut a host at the colon of its port; colons in brackets do not count. -/
def cutPort : Bool → List Char → List Char × Option (List Char)
  | _, [] => ([], none)
  | inBrackets, c :: r =>
    if c = ':' && !inBrackets then ([], some r)
    else
      let (host, port) := cutPort (c = '[' || (inBrackets && c ≠ ']')) r
      (c :: host, port)

/-- A port number; the default one of the scheme and an empty text are none. -/
def portNumber (scheme : String) (cs : List Char) : Except Error (Option Nat) :=
  if cs.all Char.isDigit then
    let n := cs.foldl (fun n c => n * 10 + (c.toNat - 48)) 0
    if 65535 < n then .error .invalidPort
    else .ok (if cs = [] || defaultPort? scheme = some n then none else some n)
  else .error .invalidPort

/-- Read an authority. A host may be absent only where it need not be there at all, and then nothing
else of the authority may be there either. -/
def Authority.parse (scheme : String) (cs : List Char) : Except Error Authority := do
  let special := isSpecialScheme scheme
  let (user, hostPort) := cutUserinfo cs
  let (username, password) := credentials (user.getD [])
  let (hostChars, portChars) := cutPort false hostPort
  let alone := !special && portChars.isNone && username = "" && password = ""
  if hostChars = [] && !alone then .error .emptyHost
  else
    let host ← if special then Host.parse hostChars else Host.parseOther hostChars
    let port ← (portChars.map (portNumber scheme)).getD (.ok none)
    .ok ⟨username, password, host, port⟩

def isSingleDot (segment : String) : Bool := Text.asciiLower segment ∈ [".", "%2e"]

def isDoubleDot (segment : String) : Bool :=
  Text.asciiLower segment ∈ ["..", ".%2e", "%2e.", "%2e%2e"]

/-- Take one segment into the path built so far, which is in reverse. A dot segment at the end of the
path leaves an empty segment. -/
def addSegment (built : List String) (segment : String) (last : Bool) : List String :=
  if isDoubleDot segment then (if last then "" :: built.tail else built.tail)
  else if isSingleDot segment then (if last then "" :: built else built)
  else segment :: built

def resolveSegments (built : List String) : List String → List String
  | [] => built.reverse
  | [segment] => (addSegment built segment true).reverse
  | segment :: rest => resolveSegments (addSegment built segment false) rest

/-- Split the text of a path, after its first slash, into segments, and escape and resolve them. -/
def pathSegments (special : Bool) (cs : List Char) : List String :=
  let slashes := if special then cs.map fun c => if c = '\\' then '/' else c else cs
  resolveSegments [] ((Text.splitOn '/' slashes).map fun s =>
    String.ofList (percentEncode keepInPath s))

/-- Two characters that name a drive, which is never a host. -/
def isDrive (cs : List Char) : Bool :=
  match cs with
  | [a, b] => a.isAlpha && (b = ':' || b = '|')
  | _ => false

/-- The path of a file address: it begins with one slash however many are written, and a drive letter
is followed by a colon. -/
def filePath (cs : List Char) : List String :=
  let segments := pathSegments true cs
  let trimmed := segments.dropWhile (· = "")
  match if trimmed = [] then [""] else trimmed with
  | first :: rest =>
    (if isDrive first.toList then String.ofList (first.toList.take 1 ++ [':']) else first) :: rest
  | [] => [""]

def cutTail (special : Bool) (cs : List Char) : List Char × Option String × Option String :=
  let (front, fragment) := match Text.cutAt? '#' cs with
    | some (front, f) => (front, some (String.ofList (percentEncode keepInFragment f)))
    | none => (cs, none)
  match Text.cutAt? '?' front with
  | some (path, q) => (path, some (String.ofList (percentEncode (keepInQuery special) q)), fragment)
  | none => (front, none, fragment)

def isSlash (special : Bool) (c : Char) : Bool := c = '/' || (special && c = '\\')

/-- Read the address of a file, after its scheme. -/
def parseFile (path : List Char) : Except Error (Option Authority × List String) :=
  let slashes := (path.takeWhile (isSlash true)).length
  if slashes < 2 then .ok (none, filePath (path.drop slashes))
  else
    let rest := path.drop 2
    let host := rest.takeWhile (!isSlash true ·)
    if host = [] || isDrive host then .ok (none, filePath rest)
    else
      (Host.parse host).map fun host =>
        let after := (rest.dropWhile (!isSlash true ·)).drop 1
        if host = .domain "localhost" then (none, filePath after)
        else (some ⟨"", "", host, none⟩, filePath after)

def parse (input : String) : Except Error Url := do
  match scheme? (clean input.toList) with
  | none => .error .relative
  | some (scheme, rest) =>
    let special := isSpecialScheme scheme
    let (path, query, fragment) := cutTail special rest
    if scheme = "file" then
      let (authority, segments) ← parseFile path
      .ok ⟨scheme, authority, .segments segments, query, fragment⟩
    else
      let slashes := (path.takeWhile (isSlash special)).length
      if special || 2 ≤ slashes then
        let body := path.drop (if special then slashes else 2)
        let authority ← Authority.parse scheme (body.takeWhile (!isSlash special ·))
        let after := body.dropWhile (!isSlash special ·)
        let segments :=
          if after = [] && !special then [] else pathSegments special (after.drop 1)
        .ok ⟨scheme, some authority, .segments segments, query, fragment⟩
      else if slashes = 1 then
        .ok ⟨scheme, none, .segments (pathSegments special (path.drop 1)), query, fragment⟩
      else
        .ok ⟨scheme, none, .flat (String.ofList (percentEncode isPrintable path)), query, fragment⟩

end Url
end ApiToolbox
