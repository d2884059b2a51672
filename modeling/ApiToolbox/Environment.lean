import ApiToolbox.Text.Blank

/-!
Environment variables. A variable counts as set to a value only if that is not blank.
-/

namespace ApiToolbox

structure Environment where
  entries : List (String × String)
  deriving DecidableEq, Repr, Inhabited

namespace Environment

def get? (e : Environment) (name : String) : Option String :=
  (e.entries.find? (·.1 = name)).map (·.2)

/-- The value of a variable without surrounding white space, unless it is blank. -/
def nonBlank? (e : Environment) (name : String) : Option String :=
  (e.get? name).bind Text.nonBlank?

/-- Set a variable, or remove it. -/
def set (e : Environment) (name : String) (value : Option String) : Environment :=
  ⟨(value.map (name, ·)).toList ++ e.entries.filter (·.1 ≠ name)⟩

end Environment
end ApiToolbox
