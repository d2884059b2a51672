/-!
Operations of an HTTP API: a method and a path template, the parameters that go into the path and into
the query, and perhaps a body.
-/

namespace ApiToolbox

inductive Method where
  | get
  | post
  | put
  | patch
  | delete
  deriving DecidableEq, Repr, Inhabited

namespace Method

/-- The methods of a path document, in the order in which they are looked up. -/
def all : List Method := [.get, .post, .put, .patch, .delete]

/-- The key of a method in a path document, which also begins tool names. -/
def key : Method → String
  | .get => "get"
  | .post => "post"
  | .put => "put"
  | .patch => "patch"
  | .delete => "delete"

/-- The method as requests name it. -/
def name : Method → String
  | .get => "GET"
  | .post => "POST"
  | .put => "PUT"
  | .patch => "PATCH"
  | .delete => "DELETE"

end Method

inductive Location where
  | path
  | query
  deriving DecidableEq, Repr, Inhabited

/-- The place that a declaration names; parameters of other places are not kept. -/
def Location.ofName? : String → Option Location
  | "path" => some .path
  | "query" => some .query
  | _ => none

def Location.name : Location → String
  | .path => "path"
  | .query => "query"

inductive ParameterType where
  | integer
  | number
  | boolean
  | array
  | string
  deriving DecidableEq, Repr, Inhabited

/-- A type by its name; any other name, and none, is a string. -/
def ParameterType.ofName : Option String → ParameterType
  | some "integer" => .integer
  | some "number" => .number
  | some "boolean" => .boolean
  | some "array" => .array
  | _ => .string

def ParameterType.name : ParameterType → String
  | .integer => "integer"
  | .number => "number"
  | .boolean => "boolean"
  | .array => "array"
  | .string => "string"

structure Parameter where
  name : String
  location : Location
  required : Bool
  description : Option String
  type : ParameterType
  format : Option String
  deriving DecidableEq, Repr, Inhabited

/-- A declared parameter. One that goes into the path is required whatever its declaration says. -/
def Parameter.declare (name : String) (location : Location) (required : Bool)
    (description : Option String) (type : ParameterType) (format : Option String) : Parameter :=
  ⟨name, location, required || location = .path, description, type, format⟩

theorem Parameter.required_declare_path (name : String) (required : Bool)
    (description : Option String) (type : ParameterType) (format : Option String) :
    (declare name .path required description type format).required = true := by
  simp [declare]

structure BodySpec where
  required : Bool
  description : Option String
  deriving DecidableEq, Repr, Inhabited

structure Operation where
  tool : String
  method : Method
  path : String
  summary : String
  description : Option String
  pathParams : List Parameter
  queryParams : List Parameter
  body : Option BodySpec
  deriving DecidableEq, Repr, Inhabited

namespace Operation

/-- All parameters, those of the path first. -/
def parameters (op : Operation) : List Parameter := op.pathParams ++ op.queryParams

end Operation

/-- Split parameters by place, keeping their order. -/
def partitionByLocation (ps : List Parameter) : List Parameter × List Parameter :=
  ps.partition (·.location = .path)

end ApiToolbox
