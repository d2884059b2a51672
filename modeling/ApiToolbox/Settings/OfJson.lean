import ApiToolbox.Settings.Basic

/-!
Settings from a JSON value: an object, in which unknown keys do not count, or a list by position. A
repeated key stands in the object as often as in its text.
-/

namespace ApiToolbox.Settings

open Json (Value)

namespace OfJson

def optionalText? : Value → Option (Option String)
  | .null => some none
  | .string s => some (some s)
  | _ => none

/-- A policy: its name, or an object with its name over null. -/
def policy? : Value → Option DigestPolicy
  | .string s => DigestPolicy.ofName? s
  | .object [(name, .null)] => DigestPolicy.ofName? name
  | _ => none

def texts? (v : Value) : Option (List String) := v.items?.bind fun vs => vs.mapM Value.string?

/-- The patterns under a key; none are given if it is absent. A key that comes twice is refused. -/
def patterns? (key : String) (ms : Members Value) : Option (List String) :=
  match ms.filter (·.1 = key) with
  | [] => some []
  | [(_, v)] => texts? v
  | _ => none

/-- A choice of operations: a flag, or patterns. -/
def discovery? : Value → Option Discovery
  | .bool enabled => some (.all enabled)
  | .object ms => do return .selected (← patterns? "include" ms) (← patterns? "exclude" ms)
  | _ => none

def natural? : Value → Option Nat
  | .number (.integer n) => if 0 ≤ n && n < Int.pow 2 64 then some n.toNat else none
  | _ => none

def optionalNatural? (v : Value) : Option (Option Nat) :=
  if v.isNull then some none else (natural? v).map some

end OfJson

def jsonReader : Reader Option Value where
  refused := none
  text := Value.string?
  optionalText := OfJson.optionalText?
  policy := OfJson.policy?
  texts := OfJson.texts?
  discovery := OfJson.discovery?
  optionalNatural := OfJson.optionalNatural?

def ofJson? : Value → Option Settings
  | .object ms =>
    readAll jsonReader (ms.filterMap fun (name, v) => (Key.ofName? name).map (·, v))
  | .array vs => if Key.all.length < vs.length then none else readAll jsonReader (Key.all.zip vs)
  | _ => none

end ApiToolbox.Settings
