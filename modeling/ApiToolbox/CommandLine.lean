import ApiToolbox.Environment
import ApiToolbox.Settings

/-!
The command line: options that take a value, two flags that end the program at once, and variables that
stand in for options. A value that follows its option as a word of its own counts only when the next
option comes or the line ends; before that an unknown word is reported first.
-/

namespace ApiToolbox

inductive LogFormat where
  | text
  | json
  deriving DecidableEq, Repr, Inhabited

def LogFormat.name : LogFormat → String
  | text => "text"
  | json => "json"

def LogFormat.ofName? : String → Option LogFormat
  | "text" => some .text
  | "json" => some .json
  | _ => none

structure CommandLine where
  index : Option String
  settings : Option String
  baseUrl : Option String
  logLevel : String
  logFormat : LogFormat
  deriving DecidableEq, Repr

inductive UsageError where
  | help
  | version
  | unknownArgument
  | repeated
  | badValue
  | needlessValue
  deriving DecidableEq, Repr

def UsageError.name : UsageError → String
  | help => "DisplayHelp"
  | version => "DisplayVersion"
  | unknownArgument => "UnknownArgument"
  | repeated => "ArgumentConflict"
  | badValue => "InvalidValue"
  | needlessValue => "TooManyValues"

/-- Asking for help or for the version is no failure. -/
def UsageError.exitCode : UsageError → Nat
  | help => 0
  | version => 0
  | _ => 2

namespace CommandLine

/-- The options that take a value. -/
inductive Switch where
  | index
  | settings
  | baseUrl
  | logLevel
  | logFormat
  deriving DecidableEq, Repr

namespace Switch

def all : List Switch := [.index, .settings, .baseUrl, .logLevel, .logFormat]

/-- The word for an option, without its dashes. -/
def name : Switch → String
  | index => "spec"
  | settings => "config"
  | baseUrl => "base-url"
  | logLevel => "log-level"
  | logFormat => "log-format"

def ofName? (name : String) : Option Switch := all.find? (·.name = name)

/-- The variable that stands in for an option. -/
def standIn? : Switch → Option String
  | index => some "RESTMCP_SPEC"
  | settings => some "RESTMCP_CONFIG"
  | logLevel => some "RESTMCP_LOG_LEVEL"
  | _ => none

/-- Whether an option takes a value: paths are not empty, and formats must be known. -/
def takes : Switch → String → Bool
  | index, value => value ≠ ""
  | settings, value => value ≠ ""
  | logFormat, value => (LogFormat.ofName? value).isSome
  | _, _ => true

end Switch

abbrev Given := List (Switch × String)

def Given.get? (g : Given) (s : Switch) : Option String := (g.find? (·.1 = s)).map (·.2)

/-- Give a value to an option that has none yet. -/
def Given.add (g : Given) (s : Switch) (value : String) : Except UsageError Given :=
  if (g.get? s).isSome then .error .repeated
  else if s.takes value then .ok (g ++ [(s, value)])
  else .error .badValue

inductive Word where
  | escape
  | long (name : String) (value : Option String)
  | short (letter : Char)
  | plain (text : String)
  deriving DecidableEq, Repr

def Word.ofText (w : String) : Word :=
  match w.toList with
  | ['-', '-'] => .escape
  | '-' :: '-' :: cs =>
    match Text.cutAt? '=' cs with
    | some (name, value) => .long (String.ofList name) (some (String.ofList value))
    | none => .long (String.ofList cs) none
  | '-' :: c :: _ => .short c
  | _ => .plain w

/-- An option whose value is still to come or to be counted. -/
abbrev Pending := Option (Switch × Option String)

def settle (g : Given) : Pending → Except UsageError Given
  | none => .ok g
  | some (s, some value) => g.add s value
  | some (_, none) => .error .badValue

def readWords (g : Given) (pending : Pending) : List String → Except UsageError Given
  | [] => settle g pending
  | w :: rest =>
    match Word.ofText w with
    | .escape => if rest = [] then settle g pending else .error .unknownArgument
    | .short 'h' => do let _ ← settle g pending; .error .help
    | .short 'V' => do let _ ← settle g pending; .error .version
    | .short _ => .error .unknownArgument
    | .plain text =>
      match pending with
      | some (s, none) => readWords g (some (s, some text)) rest
      | _ => .error .unknownArgument
    | .long "help" none => do let _ ← settle g pending; .error .help
    | .long "version" none => do let _ ← settle g pending; .error .version
    | .long name value =>
      if name = "help" || name = "version" then .error .needlessValue
      else
        match Switch.ofName? name with
        | none => .error .unknownArgument
        | some s =>
          match settle g pending with
          | .error e => .error e
          | .ok g =>
            match value with
            | none => readWords g (some (s, none)) rest
            | some value =>
              match g.add s value with
              | .error e => .error e
              | .ok g => readWords g none rest

/-- Give options without value the values of their variables. -/
def readVariables (e : Environment) (g : Given) : Except UsageError Given :=
  Switch.all.foldlM
    (fun g s =>
      match s.standIn?.bind e.get? with
      | some value => if (g.get? s).isSome then .ok g else g.add s value
      | none => .ok g) g

def parse (e : Environment) (words : List String) : Except UsageError CommandLine := do
  let g ← readVariables e (← readWords [] none words)
  return {
    index := g.get? .index
    settings := g.get? .settings
    baseUrl := g.get? .baseUrl
    logLevel := (g.get? .logLevel).getD "info"
    logFormat := ((g.get? .logFormat).bind LogFormat.ofName?).getD .text }

def help : String :=
  "Expose a path-document API description as MCP tools over stdio\n\n" ++
    "Usage: restmcp-adapter [OPTIONS]\n\nOptions:\n" ++
    "      --spec <SPEC>              Index document (overrides \x60spec\x60 from the config file) " ++
    "[env: RESTMCP_SPEC=]\n" ++
    "      --config <CONFIG>          YAML or JSON config file [env: RESTMCP_CONFIG=]\n" ++
    "      --base-url <BASE_URL>      Base URL of the API (overrides \x60baseUrl\x60 from the config " ++
    "file)\n" ++
    "      --log-level <LOG_LEVEL>    Log filter [env: RESTMCP_LOG_LEVEL=] [default: info]\n" ++
    "      --log-format <LOG_FORMAT>  Log output format [default: text] [possible values: text, " ++
    "json]\n" ++
    "  -h, --help                     Print help\n" ++
    "  -V, --version                  Print version"

/-- The settings for a command line: those of its file, with what it says itself in front. -/
def resolve (c : CommandLine) (read : String → Except SettingsError Settings) :
    Except SettingsError Settings := do
  let s ← match c.settings, c.index with
    | some path, index => do
      let s ← read path
      pure { s with index := index.getD s.index }
    | none, some index => pure { index }
    | none, none => .error .noIndex
  return { s with baseUrl := c.baseUrl <|> s.baseUrl }

end CommandLine
end ApiToolbox
