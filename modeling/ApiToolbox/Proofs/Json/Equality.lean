import ApiToolbox.Json.Value

/-! Equality of values can be decided, so that what reads values can be run and its result compared. -/

namespace ApiToolbox.Json.Value

mutual

/-- Whether two values are the same. -/
def same : Value → Value → Bool
  | .null, .null => true
  | .bool a, .bool b => a = b
  | .number a, .number b => a = b
  | .string a, .string b => a = b
  | .array as, .array bs => sameItems as bs
  | .object as, .object bs => sameMembers as bs
  | _, _ => false

def sameItems : List Value → List Value → Bool
  | [], [] => true
  | a :: as, b :: bs => same a b && sameItems as bs
  | _, _ => false

def sameMembers : List (String × Value) → List (String × Value) → Bool
  | [], [] => true
  | (k, a) :: as, (l, b) :: bs => k = l && same a b && sameMembers as bs
  | _, _ => false

end

mutual

theorem same_iff (a b : Value) : same a b = true ↔ a = b := by
  cases a with
  | array as => cases b <;> simp [same, sameItems_iff as]
  | object as => cases b <;> simp [same, sameMembers_iff as]
  | _ => cases b <;> simp [same]

theorem sameItems_iff (as bs : List Value) : sameItems as bs = true ↔ as = bs := by
  cases as with
  | nil => cases bs <;> simp [sameItems]
  | cons a as => cases bs <;> simp [sameItems, same_iff a, sameItems_iff as]

theorem sameMembers_iff (as bs : List (String × Value)) : sameMembers as bs = true ↔ as = bs := by
  cases as with
  | nil => cases bs <;> simp [sameMembers]
  | cons m as =>
    obtain ⟨k, a⟩ := m
    cases bs with
    | nil => simp [sameMembers]
    | cons n bs =>
      obtain ⟨l, b⟩ := n
      simp [sameMembers, same_iff a, sameMembers_iff as, and_assoc]

end

instance : DecidableEq Value := fun a b => decidable_of_iff (same a b = true) (same_iff a b)

end ApiToolbox.Json.Value
