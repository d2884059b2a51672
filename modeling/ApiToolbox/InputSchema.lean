import ApiToolbox.Json.Value
import ApiToolbox.Operation
import ApiToolbox.Text.Blank

/-!
The input of a tool: its fields, how they are advertised as a JSON schema, and how arguments are read
against them. Arguments that have a field's value in another form, such as a number written as text,
are converted; what cannot be converted is refused.
-/

namespace ApiToolbox

open Json (Value)

inductive FieldKind where
  | integer
  | number
  | boolean
  | stringArray
  | string
  | body
  deriving DecidableEq, Repr, Inhabited

def FieldKind.ofType : ParameterType → FieldKind
  | .integer => .integer
  | .number => .number
  | .boolean => .boolean
  | .array => .stringArray
  | .string => .string

def FieldKind.expectation : FieldKind → String
  | .integer => "an integer"
  | .number => "a number"
  | .boolean => "a boolean"
  | .stringArray => "an array of scalar values"
  | .string => "a string"
  | .body => "a body"

inductive FieldSource where
  | parameter (location : Location)
  | body
  deriving DecidableEq, Repr, Inhabited

/-- A field of the input: its name, what it holds, where that goes, and whether it must be there. -/
structure Field where
  name : String
  kind : FieldKind
  source : FieldSource
  description : String
  required : Bool
  deriving DecidableEq, Repr, Inhabited

inductive ArgumentError where
  | notObject (kind : String)
  | missingQuery (name : String)
  | invalid (name : String) (kind : FieldKind)
  deriving DecidableEq, Repr

def ArgumentError.message : ArgumentError → String
  | notObject kind => "Arguments must be an object, got " ++ kind
  | missingQuery name => "Missing required query parameter: " ++ name
  | invalid name kind => "Invalid value for '" ++ name ++ "': expected " ++ kind.expectation

/-! ### Conversions -/

namespace Json.Value

/-- The bounds of signed and unsigned words of 64 bits. -/
def leastWord : Int := -Int.pow 2 63
def greatestSignedWord : Int := Int.pow 2 63 - 1
def greatestWord : Int := Int.pow 2 64 - 1

/-- The text of a scalar other than null. -/
def scalarText? : Value → Option String
  | .string s => some s
  | .number n => some n.text
  | .bool b => some (if b then "true" else "false")
  | _ => none

/-- The integer that a trimmed text spells in decimal, if a word can hold it. -/
def spelledInteger? (s : String) : Option Int :=
  (Binary64.signedDigits? (Text.trim s.toList)).filter fun n =>
    leastWord ≤ n && n ≤ greatestWord

/-- An integer: one as such, a double without fraction in the range of signed words, or a text that
spells one. -/
def toInteger? : Value → Option Value
  | .number (.integer n) => some (.int n)
  | .number (.double x) => do
    let n ← x.toInt?
    if leastWord ≤ n && n ≤ greatestSignedWord + 1 then some (.int (min n greatestSignedWord))
    else none
  | .string s => (spelledInteger? s).map .int
  | _ => none

/-- A number: one as such, or a text that spells an integer in the range of signed words or a finite
double. -/
def toNumber? : Value → Option Value
  | .number n => some (.number n)
  | .string s =>
    match (spelledInteger? s).filter (· ≤ greatestSignedWord) with
    | some n => some (.int n)
    | none => (Binary64.ofNumeral? (Text.trim s.toList)).map fun x => .number (.double x)
  | _ => none

/-- A truth value: one as such, a number by whether it is zero, or one of four words in any case. -/
def toBoolean? : Value → Option Value
  | .bool b => some (.bool b)
  | .number (.integer n) => some (.bool (n ≠ 0))
  | .number (.double x) => some (.bool (!x.isZero))
  | .string s =>
    let word := Text.asciiLower (Text.trimmed s)
    if word = "true" || word = "1" then some (.bool true)
    else if word = "false" || word = "0" then some (.bool false)
    else none
  | _ => none

/-- A text: that of a scalar. -/
def toText? (v : Value) : Option Value := v.scalarText?.map .string

/-- A list of texts: that of a list of scalars. -/
def toTexts? : Value → Option Value
  | .array vs => (vs.mapM toText?).map .array
  | _ => none

end Json.Value

namespace Field

/-- The value of a field from an argument that is not null. -/
def convert? (f : Field) (v : Value) : Option Value :=
  match f.kind with
  | .integer => v.toInteger?
  | .number => v.toNumber?
  | .boolean => v.toBoolean?
  | .stringArray => v.toTexts?
  | .string => v.toText?
  | .body => some v

def jsonSchema (f : Field) : Value :=
  let text (s : String) : Value := .string s
  let head : Members Value := match f.kind with
    | .integer => [("type", text "integer")]
    | .number => [("type", text "number")]
    | .boolean => [("type", text "boolean")]
    | .stringArray => [("type", text "array"), ("items", .object [("type", text "string")])]
    | .string => [("type", text "string")]
    | .body => [("type", .array [text "object", text "string"])]
  .object (head ++ [("description", text f.description)])

def ofParameter (p : Parameter) : Field :=
  let kind := match p.location with
    | .path => "Path parameter."
    | .query => "Query parameter."
  let format := p.format.map fun f => "Format: " ++ f ++ "."
  { name := p.name
    kind := .ofType p.type
    source := .parameter p.location
    description := String.intercalate " " (kind :: (p.description.toList ++ format.toList))
    required := p.required || p.location = .path }

def bodyName : String := "body"

def ofBody (b : BodySpec) : Field :=
  { name := bodyName
    kind := .body
    source := .body
    description := "Request body." ++ (b.description.map (" " ++ ·)).getD "" ++
      " Accepts a JSON object, a JSON object encoded as a string, " ++
      "or a form-encoded string (a=1&b=2)."
    required := b.required }

end Field

structure InputSchema where
  fields : List Field
  deriving DecidableEq, Repr, Inhabited

namespace InputSchema

/-- Add a field: in place of an older one of its name, else at the end. -/
def put (f : Field) : List Field → List Field
  | [] => [f]
  | g :: rest => if g.name = f.name then f :: rest else g :: put f rest

/-- The fields of an operation: its parameters, then its body. -/
def ofOperation (op : Operation) : InputSchema :=
  let fields := op.parameters.map .ofParameter ++ (op.body.map Field.ofBody).toList
  ⟨fields.foldl (fun fs f => put f fs) []⟩

def required (s : InputSchema) : List String :=
  (s.fields.filter (·.required)).map (·.name)

def jsonSchema (s : InputSchema) : Members Value :=
  [("type", .string "object"), ("properties", .object (s.fields.map fun f => (f.name, f.jsonSchema)))] ++
    if s.required = [] then [] else [("required", .array (s.required.map .string))]

/-- Read arguments field by field. An argument that is null counts as absent; only query parameters are
required at this stage. -/
def readFields (args : Members Value) : List Field → Except ArgumentError (Members Value)
  | [] => .ok []
  | f :: rest =>
    match (args.get? f.name).filter (!·.isNull) with
    | none =>
      if f.required && f.source = .parameter .query then .error (.missingQuery f.name)
      else readFields args rest
    | some v =>
      match f.convert? v with
      | none => .error (.invalid f.name f.kind)
      | some w => (readFields args rest).map ((f.name, w) :: ·)

/-- Read the arguments of a call, in the order of the fields; unknown ones are dropped. -/
def validate (s : InputSchema) (args : Value) : Except ArgumentError (Members Value) :=
  match args with
  | .null => readFields [] s.fields
  | .object ms => readFields ms s.fields
  | v => .error (.notObject v.kind)

end InputSchema

/-- What the description of a tool says about its body. -/
def Operation.bodyHint? (op : Operation) : Option String :=
  op.body.map fun b =>
    if b.required then "Request body: required (\x60body\x60)."
    else "Request body: optional (\x60body\x60)."

end ApiToolbox
