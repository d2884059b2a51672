import ApiToolbox.Binary64.Text

/-!
JSON values. Members of an object keep the order in which their keys first came, and a key that comes
again gives its last value to the first place; `Members.put` is that rule.
-/

namespace ApiToolbox

/-- Values under text keys, in order. -/
abbrev Members (α : Type) := List (String × α)

namespace Members

variable {α β : Type}

def get? (key : String) : Members α → Option α
  | [] => none
  | (k, v) :: rest => if k = key then some v else get? key rest

/-- Give a key a value: in its place if it is there, else at the end. -/
def put (key : String) (value : α) : Members α → Members α
  | [] => [(key, value)]
  | (k, v) :: rest => if k = key then (key, value) :: rest else (k, v) :: put key value rest

def keys (ms : Members α) : List String := ms.map (·.1)

/-- Put a list of keyed values one after the other. -/
def ofList (entries : List (String × α)) : Members α :=
  entries.foldl (fun ms (k, v) => ms.put k v) []

theorem get?_put_self (key : String) (value : α) (ms : Members α) :
    (ms.put key value).get? key = some value := by
  induction ms with
  | nil => simp [put, get?]
  | cons m rest ih =>
    obtain ⟨k, v⟩ := m
    by_cases h : k = key <;> simp [put, get?, h, ih]

theorem get?_put_of_ne {key other : String} (h : other ≠ key) (value : α) (ms : Members α) :
    (ms.put key value).get? other = ms.get? other := by
  induction ms with
  | nil => simp [put, get?, Ne.symm h]
  | cons m rest ih =>
    obtain ⟨k, v⟩ := m
    by_cases hk : k = key
    · subst hk; simp [put, get?, Ne.symm h]
    · by_cases ho : k = other
      · subst ho; simp [put, get?, h]
      · simp [put, get?, hk, ho, ih]

theorem keys_put (key : String) (value : α) (ms : Members α) :
    (ms.put key value).keys = if key ∈ ms.keys then ms.keys else ms.keys ++ [key] := by
  induction ms with
  | nil => simp [put, keys]
  | cons m rest ih =>
    obtain ⟨k, v⟩ := m
    by_cases hk : k = key
    · subst hk; simp [put, keys]
    · simp only [keys, List.map_cons, put, hk, if_false, List.mem_cons] at ih ⊢
      rw [ih]
      by_cases hm : key ∈ rest.map (·.1) <;> simp [hm, Ne.symm hk]

end Members

namespace Json

/-- An integer, or a binary64 number where the text has a fraction, an exponent or too many digits. -/
inductive Number where
  | integer (n : Int)
  | double (x : Binary64)
  deriving DecidableEq, Repr, Inhabited

def Number.text : Number → String
  | .integer n => toString n
  | .double x => x.text

/-- A JSON value; objects keep the order of their keys. -/
inductive Value where
  | null
  | bool (b : Bool)
  | number (n : Number)
  | string (s : String)
  | array (items : List Value)
  | object (members : List (String × Value))
  deriving BEq, Repr, Inhabited

namespace Value

def int (n : Int) : Value := .number (.integer n)

/-- The name of the kind of a value, as messages give it. -/
def kind : Value → String
  | .null => "null"
  | .bool _ => "boolean"
  | .number _ => "number"
  | .string _ => "string"
  | .array _ => "array"
  | .object _ => "object"

def isNull : Value → Bool
  | .null => true
  | _ => false

def members? : Value → Option (Members Value)
  | .object ms => some ms
  | _ => none

def items? : Value → Option (List Value)
  | .array vs => some vs
  | _ => none

def string? : Value → Option String
  | .string s => some s
  | _ => none

def bool? : Value → Option Bool
  | .bool b => some b
  | _ => none

/-- The member of an object under a key; other values have none. -/
def member? (v : Value) (key : String) : Option Value :=
  v.members?.bind (Members.get? key)

end Value
end Json
end ApiToolbox
