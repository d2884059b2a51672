import ApiToolbox.FileTree
import ApiToolbox.Json.Parser
import ApiToolbox.Reference
import ApiToolbox.Settings.OfYaml

/-!
Settings from a file: JSON if the text is settings in JSON, else YAML. An index that is given by a
relative path is looked for beside the file.
-/

namespace ApiToolbox

inductive SettingsError where
  | unreadable (path : String) (cause : FileError)
  | malformed (path : String)
  | noIndex
  deriving DecidableEq, Repr

def SettingsError.message : SettingsError → String
  | unreadable path cause => "Failed to read config '" ++ path ++ "': " ++ cause.message
  | malformed path => "Invalid config '" ++ path ++ "'"
  | noIndex => "No index document: pass --spec or --config"

namespace Settings

def ofText? (text : String) : Option Settings :=
  match (Json.parseKeeping? text).bind ofJson? with
  | some s => some s
  | none => (Yaml.Document.ofText? text.toList).bind ofYaml?

/-- The settings with the index seen from the directory of the file at a path. -/
def beside (s : Settings) (path : String) : Settings :=
  { s with index := DocPath.join (DocPath.parent ⟨path⟩) s.index }

def ofFileText (path text : String) : Except SettingsError Settings :=
  match ofText? text with
  | some s => .ok (s.beside path)
  | none => .error (.malformed path)

def ofFile (t : FileTree) (path : String) : Except SettingsError Settings :=
  match t.read path with
  | .ok text => ofFileText path text
  | .error e => .error (.unreadable path e)

end Settings
end ApiToolbox
