import ApiToolbox.CommandLine
import ApiToolbox.LogFilter
import ApiToolbox.Toolbox

/-!
The server: how it starts, what it says about itself, and what it does with the messages of a client.
Messages are objects; a request has an identifier and gets exactly one reply with it.
-/

namespace ApiToolbox

open Json (Value)

/-! ### What is written -/

/-- Hints as they are advertised; those that are not known are left out. -/
def Hints.members (h : Hints) : Members Value :=
  let hint (name : String) (known : Option Bool) : Members Value :=
    (known.map fun b => (name, Value.bool b)).toList
  hint "readOnlyHint" h.readOnly ++ hint "destructiveHint" h.destructive ++
    hint "idempotentHint" h.idempotent ++ hint "openWorldHint" h.openWorld

def Tool.members (t : Tool) : Members Value :=
  [("name", .string t.name), ("description", .string t.description),
   ("inputSchema", .object t.inputSchema), ("annotations", .object t.hints.members)]

def ToolResult.members (r : ToolResult) : Members Value :=
  [("content", .array [.object [("type", .string "text"), ("text", .string r.text)]])] ++
    (r.structured?.map fun v => ("structuredContent", v)).toList ++
    [("isError", .bool r.isError)]

/-! ### Starting -/

inductive StartError where
  | usage (cause : UsageError)
  | logFilter (level : String)
  | settings (cause : SettingsError)
  | toolbox (cause : Failure)
  deriving DecidableEq, Repr

namespace StartError

def settingsReport (cause : SettingsError) : String := "Configuration error: " ++ cause.message

/-- What is reported; errors of the command line are explained by its own help. -/
def report? : StartError → Option String
  | usage _ => none
  | logFilter level => some ("Error: invalid log level '" ++ level ++ "'")
  | settings cause => some ("Error: " ++ settingsReport cause)
  | toolbox cause => some ("Error: Startup error: " ++ cause.report)

def exitCode : StartError → Nat
  | usage cause => cause.exitCode
  | _ => 1

end StartError

namespace Server

/-- The command line with a log filter that can be read. -/
def readCommandLine (e : Environment) (words : List String) : Except StartError CommandLine := do
  let c ← (CommandLine.parse e words).mapError .usage
  if LogFilter.isValid c.logLevel then return c else .error (.logFilter c.logLevel)

def start (e : Environment) (t : FileTree) (words : List String) : Except StartError Toolbox := do
  let c ← readCommandLine e words
  let s ← (c.resolve (Settings.ofFile t)).mapError .settings
  (Toolbox.build s e t).mapError .toolbox

/-! ### Talking -/

def name : String := "restmcp-adapter"

def version : String := "0.1.0"

def instructions : String :=
  "Each tool calls one HTTP API operation. Call list_operations to see every operation with its " ++
    "method and path."

/-- What the server offers: tools and nothing else. -/
def capabilities : Value := .object [("tools", .object [])]

/-- The revision of the protocol. A client that asks for an older one gets that. -/
def revision : String := "2025-06-18"

def greeting (wanted : Option String) : Value :=
  let agreed := (wanted.filter (· < revision)).getD revision
  .object
    [("protocolVersion", .string agreed),
     ("capabilities", capabilities),
     ("serverInfo", .object [("name", .string name), ("version", .string version)]),
     ("instructions", .string instructions)]

/-- The code of the error about a method that the server does not have. -/
def unknownMethod : Int := -32601

inductive Ask where
  | greeting (revision : Option String)
  | ping
  | tools
  | call (name : String) (args : Value)
  | unknown (method : String)
  deriving Repr

/-- What a request asks for by its method and parameters. A call without a name, or with arguments that
are no object, is not understood. -/
def Ask.ofRequest (method : String) (params : Value) : Ask :=
  if method = "initialize" then .greeting ((params.member? "protocolVersion").bind Value.string?)
  else if method = "ping" then .ping
  else if method = "tools/list" then .tools
  else if method = "tools/call" then
    match params.member? "name", (params.member? "arguments").getD .null with
    | some (.string name), .null => .call name .null
    | some (.string name), .object args => .call name (.object args)
    | _, _ => .unknown method
  else .unknown method

/-- An answer: a value, or the code and the text of an error. -/
inductive Answer where
  | result (v : Value)
  | error (code : Int) (message : String)
  deriving Repr

def answer {m : Type → Type} [Monad m] (b : Toolbox) (e : Environment)
    (exchange : Request → m (Except ExchangeError Response)) : Ask → m Answer
  | .greeting wanted => return .result (greeting wanted)
  | .ping => return .result (.object [])
  | .tools => return .result (.object [("tools", .array (b.tools.map fun t => .object t.members))])
  | .call name args => return .result (.object (← b.call e exchange name args).members)
  | .unknown method => return .error unknownMethod method

/-- The identifier and the question of a message. A message without identifier is no request. -/
def request? (message : Value) : Option (Value × Ask) := do
  let id ← (message.member? "id").filter (!·.isNull)
  let method ← (message.member? "method").bind Value.string?
  some (id, .ofRequest method ((message.member? "params").getD .null))

/-- The message that carries an answer. -/
def reply (id : Value) (a : Answer) : Value :=
  let content : String × Value := match a with
    | .result v => ("result", v)
    | .error code message =>
      ("error", .object [("code", .int code), ("message", .string message)])
  .object [("jsonrpc", .string "2.0"), ("id", id), content]

end Server
end ApiToolbox
