import ApiToolbox.Json.Value

/-!
The written forms of a JSON value: the compact one without white space, and the indented one with two
spaces a level. Strings escape the quote, the backslash and the control characters below the space.
-/

namespace ApiToolbox.Json

def hexDigit (n : Nat) : Char := if n < 10 then Char.ofNat (48 + n) else Char.ofNat (87 + n)

def escapeChar (c : Char) : List Char :=
  if c = '"' then ['\\', '"']
  else if c = '\\' then ['\\', '\\']
  else if 0x20 ≤ c.toNat then [c]
  else if c.toNat = 8 then ['\\', 'b']
  else if c.toNat = 12 then ['\\', 'f']
  else if c = '\n' then ['\\', 'n']
  else if c = '\r' then ['\\', 'r']
  else if c = '\t' then ['\\', 't']
  else ['\\', 'u', '0', '0', hexDigit (c.toNat / 16), hexDigit (c.toNat % 16)]

def quote (s : String) : List Char :=
  '"' :: (s.toList.flatMap escapeChar ++ ['"'])

mutual

def compact : Value → List Char
  | .null => ['n', 'u', 'l', 'l']
  | .bool true => ['t', 'r', 'u', 'e']
  | .bool false => ['f', 'a', 'l', 's', 'e']
  | .number n => n.text.toList
  | .string s => quote s
  | .array [] => ['[', ']']
  | .array (v :: vs) => '[' :: (compact v ++ compactItems vs)
  | .object [] => ['{', '}']
  | .object ((k, v) :: ms) => '{' :: (quote k ++ ':' :: (compact v ++ compactMembers ms))

/-- The items after the first, and the closing bracket. -/
def compactItems : List Value → List Char
  | [] => [']']
  | v :: vs => ',' :: (compact v ++ compactItems vs)

/-- The members after the first, and the closing brace. -/
def compactMembers : List (String × Value) → List Char
  | [] => ['}']
  | (k, v) :: ms => ',' :: (quote k ++ ':' :: (compact v ++ compactMembers ms))

end

def newLine (level : Nat) : List Char := '\n' :: List.replicate (2 * level) ' '

mutual

/-- The indented form of a value inside `level` containers. -/
def indented (level : Nat) : Value → List Char
  | .null => ['n', 'u', 'l', 'l']
  | .bool true => ['t', 'r', 'u', 'e']
  | .bool false => ['f', 'a', 'l', 's', 'e']
  | .number n => n.text.toList
  | .string s => quote s
  | .array [] => ['[', ']']
  | .array (v :: vs) =>
    '[' :: (newLine (level + 1) ++ indented (level + 1) v ++ indentedItems level vs)
  | .object [] => ['{', '}']
  | .object ((k, v) :: ms) =>
    '{' :: (newLine (level + 1) ++ quote k ++ ':' :: ' ' ::
      (indented (level + 1) v ++ indentedMembers level ms))

/-- The items after the first, and the closing bracket. -/
def indentedItems (level : Nat) : List Value → List Char
  | [] => newLine level ++ [']']
  | v :: vs => ',' :: (newLine (level + 1) ++ indented (level + 1) v ++ indentedItems level vs)

/-- The members after the first, and the closing brace. -/
def indentedMembers (level : Nat) : List (String × Value) → List Char
  | [] => newLine level ++ ['}']
  | (k, v) :: ms =>
    ',' :: (newLine (level + 1) ++ quote k ++ ':' :: ' ' ::
      (indented (level + 1) v ++ indentedMembers level ms))

end

def Value.text (v : Value) : String := String.ofList (compact v)

def Value.indentedText (v : Value) : String := String.ofList (indented 0 v)

end ApiToolbox.Json
