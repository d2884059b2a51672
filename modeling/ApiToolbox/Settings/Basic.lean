import ApiToolbox.Discovery
import ApiToolbox.Json.Value

/-!
The settings of a toolbox, their defaults and their JSON form. A setting has a key, by which files name
it, and a position in the list of all keys.
-/

namespace ApiToolbox

open Json (Value)

/-- What to do when the index does not have the digest that it should. -/
inductive DigestPolicy where
  | warn
  | fail
  | ignore
  deriving DecidableEq, Repr, Inhabited

namespace DigestPolicy

def name : DigestPolicy → String
  | warn => "warn"
  | fail => "fail"
  | ignore => "ignore"

def ofName? : String → Option DigestPolicy
  | "warn" => some .warn
  | "fail" => some .fail
  | "ignore" => some .ignore
  | _ => none

end DigestPolicy

structure Settings where
  index : String
  digest : Option String := none
  digestPolicy : DigestPolicy := .warn
  baseUrl : Option String := none
  baseUrlVariable : String := "RESTMCP_BASE_URL"
  tokenVariables : List String :=
    ["RESTMCP_API_TOKEN", "RESTMCP_ACCESS_TOKEN", "API_TOKEN", "ACCESS_TOKEN"]
  discovery : Discovery := .all true
  timeoutSeconds : Option Nat := none
  deriving DecidableEq, Repr

namespace Settings

def defaultBaseUrl : String := "http://127.0.0.1:8080"

inductive Key where
  | index
  | digest
  | digestPolicy
  | baseUrl
  | baseUrlVariable
  | tokenVariables
  | discovery
  | timeoutSeconds
  deriving DecidableEq, Repr

/-- The keys by their positions. -/
def Key.all : List Key :=
  [.index, .digest, .digestPolicy, .baseUrl, .baseUrlVariable, .tokenVariables, .discovery,
    .timeoutSeconds]

def Key.name : Key → String
  | index => "spec"
  | digest => "specHash"
  | digestPolicy => "specHashPolicy"
  | baseUrl => "baseUrl"
  | baseUrlVariable => "baseUrlEnv"
  | tokenVariables => "tokenEnv"
  | discovery => "autoDiscover"
  | timeoutSeconds => "timeoutSecs"

def Key.ofName? (name : String) : Option Key := Key.all.find? (·.name = name)

def textsValue (texts : List String) : Value := .array (texts.map .string)

def discoveryValue : Discovery → Value
  | .all enabled => .bool enabled
  | .selected wanted unwanted =>
    .object [("include", textsValue wanted), ("exclude", textsValue unwanted)]

def value (s : Settings) : Key → Value
  | .index => .string s.index
  | .digest => (s.digest.map .string).getD .null
  | .digestPolicy => .string s.digestPolicy.name
  | .baseUrl => (s.baseUrl.map .string).getD .null
  | .baseUrlVariable => .string s.baseUrlVariable
  | .tokenVariables => textsValue s.tokenVariables
  | .discovery => discoveryValue s.discovery
  | .timeoutSeconds => (s.timeoutSeconds.map fun n => Value.int n).getD .null

def members (s : Settings) : Members Value := Key.all.map fun k => (k.name, s.value k)

/-- How settings are read from values of one kind: a form for each kind of setting, and what a reading
comes to that is refused. -/
structure Reader (m : Type → Type) (ν : Type) where
  refused : m Settings
  text : ν → m String
  optionalText : ν → m (Option String)
  policy : ν → m DigestPolicy
  texts : ν → m (List String)
  discovery : ν → m Discovery
  optionalNatural : ν → m (Option Nat)

/-- Give the setting of a key the value that is read. -/
def read {m : Type → Type} [Monad m] {ν : Type} (r : Reader m ν) (s : Settings) (k : Key) (v : ν) :
    m Settings := do
  match k with
  | .index => return { s with index := ← r.text v }
  | .digest => return { s with digest := ← r.optionalText v }
  | .digestPolicy => return { s with digestPolicy := ← r.policy v }
  | .baseUrl => return { s with baseUrl := ← r.optionalText v }
  | .baseUrlVariable => return { s with baseUrlVariable := ← r.text v }
  | .tokenVariables => return { s with tokenVariables := ← r.texts v }
  | .discovery => return { s with discovery := ← r.discovery v }
  | .timeoutSeconds => return { s with timeoutSeconds := ← r.optionalNatural v }

/-- Read settings. The index must be among them, and none may be given twice. -/
def readAll {m : Type → Type} [Monad m] {ν : Type} (r : Reader m ν) (given : List (Key × ν)) :
    m Settings :=
  if given.any (·.1 = .index) && (given.map (·.1)).Nodup then
    given.foldlM (fun s (k, v) => read r s k v) { index := "" }
  else r.refused

end Settings
end ApiToolbox
