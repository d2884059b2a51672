import ApiToolbox.Discovery
import ApiToolbox.Index
import ApiToolbox.Template
import ApiToolbox.ToolName

/-!
The registry: the chosen operations of all path documents under their tool names, in the order of
these names.
-/

namespace ApiToolbox

/-- The places of tools in a list of operations. Of two operations with one tool, the later has the
place. -/
def Registry.placesOf (ops : List Operation) : Members Nat :=
  Members.ofList (ops.zipIdx.map fun (op, i) => (op.tool, i))

/-- The operations, ascending by tool name, and the place that each tool has among them. -/
structure Registry where
  operations : List Operation
  places : Members Nat
  places_eq : places = Registry.placesOf operations := by rfl
  deriving Repr

namespace Registry

/-- The parameter of a placeholder that no declaration names. -/
def undeclared (name : String) : Parameter := .declare name .path true none .string none

/-- Make path parameters and placeholders agree: declared parameters without placeholder go, and each
placeholder without parameter gets one. -/
def reconcile (template : String) (declared : List Parameter) : List Parameter :=
  let names := Template.placeholders template
  names.foldl
    (fun ps name => if ps.any (·.name = name) then ps else ps ++ [undeclared name])
    (declared.filter (·.name ∈ names))

def operation (tool : String) (doc : PathDocument) (decl : OperationDecl) : Operation :=
  let (pathParams, queryParams) := partitionByLocation (decl.allParameters doc.shared)
  { tool
    method := decl.method
    path := doc.path
    summary := decl.summary.getD (decl.method.name ++ " " ++ doc.path)
    description := decl.description
    pathParams := reconcile doc.path pathParams
    queryParams
    body := decl.body }

/-- The declarations of all documents that are chosen, in order. -/
def chosen (docs : List PathDocument) (d : Discovery) : List (PathDocument × OperationDecl) :=
  (docs.flatMap fun doc => doc.operations.map fun decl => (doc, decl)).filter
    fun (doc, decl) => d.allows decl.method.name doc.path

/-- Name declarations one after the other beside the names in use. -/
def name (used : List String) : List (PathDocument × OperationDecl) → List Operation
  | [] => []
  | (doc, decl) :: rest =>
    let tool := ToolName.assign used decl.method doc.path
    operation tool doc decl :: name (tool :: used) rest

def ofOperations (ops : List Operation) : Registry where
  operations := ops
  places := placesOf ops

def build (docs : List PathDocument) (d : Discovery) : Registry :=
  ofOperations ((name [ToolName.reserved] (chosen docs d)).mergeSort fun a b => a.tool ≤ b.tool)

/-- The operation of a tool: the one at its place. -/
def get? (r : Registry) (tool : String) : Option Operation :=
  (r.places.get? tool).bind (r.operations[·]?)

def size (r : Registry) : Nat := r.operations.length

end Registry
end ApiToolbox
