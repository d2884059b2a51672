import ApiToolbox.Text.Blank
import ApiToolbox.Text.Composition

/-!
Texts in quotation marks for people to read: what cannot be seen is written by its number.
-/

namespace ApiToolbox.Text

/-- Characters beyond ASCII that leave no mark of their own on the page. -/
def isHidden (c : Char) : Bool :=
  let n := c.toNat
  isBlank c || Composition.isMark c || (0x7F ≤ n && n < 0xA0) || n = 0xAD || (0x200B ≤ n && n ≤ 0x200F) ||
    (0x202A ≤ n && n ≤ 0x202E) || (0x2060 ≤ n && n ≤ 0x206F) || n = 0xFEFF ||
    (0xE000 ≤ n && n < 0xF900) || (0xFFF0 ≤ n && n ≤ 0xFFFB) || 0xE0000 ≤ n

def quoteChar (c : Char) : List Char :=
  match c with
  | '"' => ['\\', '"']
  | '\\' => ['\\', '\\']
  | '\n' => ['\\', 'n']
  | '\r' => ['\\', 'r']
  | '\t' => ['\\', 't']
  | '\x00' => ['\\', '0']
  | c =>
    if c.toNat < 32 || (c ≠ ' ' && isHidden c) then
      '\\' :: 'u' :: '{' :: Nat.toDigits 16 c.toNat ++ ['}']
    else [c]

def quoted (s : String) : String :=
  String.ofList ('"' :: s.toList.flatMap quoteChar ++ ['"'])

end ApiToolbox.Text
