import ApiToolbox.Operation

/-!
Hints about a tool: what calling it may do, as far as the method of its operation tells.
-/

namespace ApiToolbox

/-- Hints; `none` where nothing is known. -/
structure Hints where
  readOnly : Option Bool
  destructive : Option Bool
  idempotent : Option Bool
  openWorld : Option Bool
  deriving DecidableEq, Repr, Inhabited

namespace Hints

/-- The hints that a method gives by its name, which is case-sensitive. Every operation reaches out to
another program; of an unknown method nothing else is known. -/
def ofMethodName (method : String) : Hints :=
  if method ∈ ["GET", "HEAD", "OPTIONS"] then ⟨some true, some false, some true, some true⟩
  else if method = "POST" then ⟨some false, some false, some false, some true⟩
  else if method ∈ ["PUT", "DELETE"] then ⟨some false, some true, some true, some true⟩
  else if method = "PATCH" then ⟨some false, some true, none, some true⟩
  else ⟨none, none, none, some true⟩

def ofMethod (m : Method) : Hints := ofMethodName m.name

end Hints
end ApiToolbox
