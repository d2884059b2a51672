import ApiToolbox.Environment
import ApiToolbox.Failure
import ApiToolbox.Hints
import ApiToolbox.Registry
import ApiToolbox.Settings
import ApiToolbox.Text.Quote

/-!
A toolbox: the operations of an index as tools, and what is needed to call them. Building one reads the
index once; calling a tool checks the arguments, then the token, the address and the body, and sends
at most one request. How requests are exchanged for responses is a parameter.
-/

namespace ApiToolbox

open Json (Value)

structure Toolbox where
  registry : Registry
  baseUrl : Url
  tokenVariables : List String
  timeout : Option Nat
  deriving Repr

/-- An operation as calls of its tool meet it, with the input that arguments are read against. -/
structure Callable where
  operation : Operation
  input : InputSchema
  deriving Repr

structure Tool where
  name : String
  description : String
  inputSchema : Members Value
  hints : Hints
  deriving Repr

structure OperationRow where
  tool : String
  method : String
  path : String
  summary : String
  deriving DecidableEq, Repr

structure Outcome where
  method : Method
  url : Url
  response : Response
  deriving Repr

/-- The result of calling a tool: a value, shown with its text, or the text of a failure. -/
inductive ToolResult where
  | value (v : Value) (failed : Bool)
  | failure (text : String)
  deriving Repr

namespace Outcome

def members (o : Outcome) : Members Value :=
  [("ok", .bool o.response.isSuccess),
   ("status", .int o.response.status),
   ("statusText", .string (Response.reason o.response.status)),
   ("method", .string o.method.name),
   ("url", .string o.url.text),
   ("headers", .object ((Header.flatten o.response.headers).map fun (k, v) => (k, .string v))),
   ("data", o.response.data)]

end Outcome

namespace OperationRow

def members (r : OperationRow) : Members Value :=
  [("tool", .string r.tool), ("method", .string r.method), ("path", .string r.path),
   ("summary", .string r.summary)]

end OperationRow

namespace ToolResult

/-- A failure as the caller of a tool sees it: an unknown tool is named without the words for its
kind. -/
def ofFailure (f : Failure) : ToolResult :=
  match f with
  | .unknownTool _ => .failure f.message
  | f => .failure f.report

def text : ToolResult → String
  | value v _ => v.indentedText
  | failure text => text

def isError : ToolResult → Bool
  | value _ failed => failed
  | failure _ => true

def structured? : ToolResult → Option Value
  | value v _ => some v
  | failure _ => none

end ToolResult

/-! ### Tools -/

def Operation.toolDescription (op : Operation) : String :=
  op.summary ++ "\n\n" ++ op.method.name ++ " " ++ op.path ++
    (op.bodyHint?.map ("\n" ++ ·)).getD "" ++ (op.description.map ("\n\n" ++ ·)).getD ""

def Operation.asTool (op : Operation) : Tool where
  name := op.tool
  description := op.toolDescription
  inputSchema := (InputSchema.ofOperation op).jsonSchema
  hints := .ofMethod op.method

/-- The tool that lists the operations. It stays inside the program. -/
def Tool.listing : Tool where
  name := ToolName.reserved
  description := "List every API operation exposed by this server (tool name, HTTP method, path, " ++
    "summary)."
  inputSchema := [("type", .string "object"), ("properties", .object [])]
  hints := ⟨some true, some false, some true, some false⟩

namespace Toolbox

/-! ### Building -/

/-- The base address: that of the variable, of the settings, or the default one. -/
def readBaseUrl (s : Settings) (e : Environment) : Except Failure Url :=
  let given := ((e.nonBlank? s.baseUrlVariable) <|> s.baseUrl).getD Settings.defaultBaseUrl
  (BaseUrl.parse given).mapError (.baseUrl given)

/-- The path documents of the index, which must have the digest of the settings if they insist. -/
def readIndex (s : Settings) (t : FileTree) : Except Failure (List PathDocument) :=
  match t.read s.index with
  | .error e => .error (.indexUnreadable s.index e)
  | .ok text =>
    match s.digest with
    | some expected =>
      if s.digestPolicy = .fail && !Index.hasDigest text expected then
        .error (.indexChanged expected (Index.digest text))
      else .ok (Index.ofText t s.index text)
    | none => .ok (Index.ofText t s.index text)

/-- Build a toolbox. A timeout of no seconds is none. -/
def build (s : Settings) (e : Environment) (t : FileTree) : Except Failure Toolbox := do
  let baseUrl ← readBaseUrl s e
  let docs ← readIndex s t
  return {
    registry := Registry.build docs s.discovery
    baseUrl
    tokenVariables := s.tokenVariables
    timeout := s.timeoutSeconds.filter (0 < ·) }

/-! ### Listing -/

/-- All tools, the listing first. -/
def tools (b : Toolbox) : List Tool := .listing :: b.registry.operations.map Operation.asTool

/-- The operations, in the order of their tools. -/
def rows (b : Toolbox) : List OperationRow :=
  b.registry.operations.map fun op => ⟨op.tool, op.method.name, op.path, op.summary⟩

def listing (b : Toolbox) : ToolResult :=
  .value
    (.object
      [("count", .int b.rows.length),
       ("operations", .array (b.rows.map fun r => .object r.members))])
    false

/-! ### Calling -/

/-- The token: the first variable with one. -/
def token (e : Environment) (names : List String) : Except Failure String :=
  match names.findSome? e.nonBlank? with
  | some token => .ok token
  | none => .error (.noToken names)

/-- The request for an operation with arguments that have been checked. -/
def request (b : Toolbox) (e : Environment) (op : Operation) (args : Members Value) :
    Except Failure Request := do
  let token ← token e b.tokenVariables
  let url ← (RequestUrl.build b.baseUrl op args).mapError .url
  let body ← match op.body with
    | some spec => (readBody (args.get? Field.bodyName) spec.required).mapError .body
    | none => .ok none
  return ⟨op.method, url, token, body, b.timeout⟩

/-- The operations as calls meet them, in the order of their tools. -/
def callables (b : Toolbox) : List Callable :=
  b.registry.operations.map fun op => ⟨op, .ofOperation op⟩

/-- What a call of a tool meets: the operation at the place of its name. -/
def callable? (b : Toolbox) (name : String) : Option Callable :=
  ((Registry.placesOf (b.callables.map (·.operation))).get? name).bind (b.callables[·]?)

def prepare (b : Toolbox) (e : Environment) (name : String) (args : Value) :
    Except Failure Request :=
  match b.callable? name with
  | none => .error (.unknownTool name)
  | some c =>
    match c.input.validate args with
    | .error cause => .error (.arguments cause)
    | .ok args => b.request e c.operation args

/-- Send a request, if it can be written. -/
def send {m : Type → Type} [Monad m] (exchange : Request → m (Except ExchangeError Response))
    (r : Request) : m (Except Failure Outcome) := do
  if r.isSendable then
    match ← exchange r with
    | .ok response => return .ok ⟨r.method, r.url, response⟩
    | .error cause => return .error (.exchange cause)
  else return .error (.exchange .unsendable)

def dispatch {m : Type → Type} [Monad m] (b : Toolbox) (e : Environment)
    (exchange : Request → m (Except ExchangeError Response)) (name : String) (args : Value) :
    m (Except Failure Outcome) :=
  match b.prepare e name args with
  | .error f => return .error f
  | .ok r => send exchange r

/-- The result of an outcome: a response that is no success is marked as failed. -/
def resultOf : Except Failure Outcome → ToolResult
  | .ok o => .value (.object o.members) (!o.response.isSuccess)
  | .error f => .ofFailure f

def call {m : Type → Type} [Monad m] (b : Toolbox) (e : Environment)
    (exchange : Request → m (Except ExchangeError Response)) (name : String) (args : Value) :
    m ToolResult :=
  if name = ToolName.reserved then return b.listing
  else return resultOf (← b.dispatch e exchange name args)

/-- A summary of the toolbox for people who look for a mistake. -/
def debugText (b : Toolbox) : String :=
  let timeout := (b.timeout.map fun n => "Some(" ++ toString n ++ "s)").getD "None"
  "OpenApiToolSource \x7b operations: " ++ toString b.registry.size ++
    ", dispatcher: Dispatcher \x7b base_url: " ++ Text.quoted b.baseUrl.text ++
    ", token_env: [" ++ String.intercalate ", " (b.tokenVariables.map Text.quoted) ++
    "], timeout: " ++ timeout ++ ", .. \x7d \x7d"

end Toolbox
end ApiToolbox
