import ApiToolbox.Request

/-!
HTTP messages: the bytes of a request, and the response that the bytes of a connection spell. A
connection serves one request and then ends, so a body without a length reaches to its end.
-/

namespace ApiToolbox

namespace Message

def line (s : String) : List UInt8 := Text.Utf8.encode s.toList ++ [13, 10]

/-- The lines in front of the body. -/
def head (r : Request) (body : List UInt8) : List String :=
  let target := r.target
  let query := (target.query.map ("?" ++ ·)).getD ""
  let host := (target.authority.map Url.Authority.hostText).getD ""
  [r.method.name ++ " " ++ target.path.text ++ query ++ " HTTP/1.1", "host: " ++ host] ++
    r.authorization.map ("authorization: " ++ ·) ++
    r.accept.map ("accept: " ++ ·) ++
    r.contentType.map ("content-type: " ++ ·) ++
    (if r.body.isSome then ["content-length: " ++ toString body.length] else []) ++
    ["connection: close"]

def ofRequest (r : Request) : List UInt8 :=
  let body := Text.Utf8.encode r.bodyText.toList
  (head r body).flatMap line ++ [13, 10] ++ body

/-- The first line without its end, and what follows it. -/
def cutLine? : List UInt8 → Option (List UInt8 × List UInt8)
  | [] => none
  | 10 :: rest => some ([], rest)
  | 13 :: 10 :: rest => some ([], rest)
  | b :: rest => (cutLine? rest).map fun (bs, rest) => (b :: bs, rest)

def trimBlanks (value : List UInt8) : List UInt8 :=
  let blank (b : UInt8) : Bool := b = 32 || b = 9
  ((value.dropWhile blank).reverse.dropWhile blank).reverse

def header? (bytes : List UInt8) : Option Header :=
  let name := bytes.takeWhile (· ≠ 58)
  match bytes.dropWhile (· ≠ 58) with
  | _ :: value =>
    (Header.name? (String.ofList (Text.Utf8.decodeLossy name))).map (·, trimBlanks value)
  | [] => none

/-- The headers up to the empty line, and what follows it. -/
def headers? : Nat → List UInt8 → Option (List Header × List UInt8)
  | 0, _ => none
  | fuel + 1, bytes => do
    match ← cutLine? bytes with
    | ([], rest) => some ([], rest)
    | (bytes, rest) =>
      let h ← header? bytes
      let (hs, rest) ← headers? fuel rest
      some (h :: hs, rest)

def natural? (cs : List Char) : Option Nat :=
  if cs ≠ [] && cs.all Char.isDigit then some (cs.foldl (fun n c => n * 10 + (c.toNat - 48)) 0)
  else none

/-- The status in the first line of a response. -/
def status? (bytes : List UInt8) : Option Nat :=
  match Text.splitOn ' ' (Text.Utf8.decodeLossy bytes) with
  | version :: status :: _ =>
    if "HTTP/1.".toList.isPrefixOf version && status.length = 3 then natural? status else none
  | _ => none

/-- The length of a chunk in hexadecimal digits; what follows a semicolon does not count. -/
def chunkLength? (bytes : List UInt8) : Option Nat :=
  let digits := ((Text.Utf8.decodeLossy bytes).takeWhile (· ≠ ';')).filter (!Text.isBlank ·)
  if digits = [] then none
  else (digits.mapM Url.hexValue?).map (·.foldl (fun n d => n * 16 + d) 0)

/-- A body in chunks; `none` if it ends too early. -/
def chunks? : Nat → List UInt8 → Option (List UInt8)
  | 0, _ => none
  | fuel + 1, bytes => do
    let (first, rest) ← cutLine? bytes
    match ← chunkLength? first with
    | 0 => some []
    | n =>
      if rest.length < n then none
      else
        let (_, after) ← cutLine? (rest.drop n)
        (chunks? fuel after).map (rest.take n ++ ·)

def value? (hs : List Header) (name : String) : Option (List Char) :=
  (Header.visible? hs name).map String.toList

/-- The body of a response; `none` if it ends too early. Some responses have none. -/
def body? (status : Nat) (hs : List Header) (rest : List UInt8) : Option (List UInt8) :=
  if status = 204 || status = 304 then some []
  else if (value? hs "transfer-encoding").any fun v => v.map Char.toLower = "chunked".toList then
    chunks? (rest.length + 1) rest
  else
    match (value? hs "content-length").bind natural? with
    | some n => if rest.length < n then none else some (rest.take n)
    | none => some rest

/-- The response that bytes spell; interim ones are passed over. `none` if there is none. -/
def response? : Nat → List UInt8 → Option (Except ExchangeError Response)
  | 0, _ => none
  | fuel + 1, bytes => do
    let (first, rest) ← cutLine? bytes
    let status ← status? first
    let (hs, rest) ← headers? (rest.length + 1) rest
    if status < 200 then response? fuel rest
    else
      match body? status hs rest with
      | some body => some (.ok ⟨status, hs, body⟩)
      | none => some (.error .cutShort)

/-- What comes of a request when its connection gave these bytes. -/
def answer (r : Request) (bytes : List UInt8) : Except ExchangeError Response :=
  (response? (bytes.length + 1) bytes).getD (.error (.notReached r))

end Message
end ApiToolbox
