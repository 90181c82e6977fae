import Portcullis.Unicode.ConcealedTable

/-!
# Quoted text

A text between quotes, as messages show it: quotes, backslashes and what does not show are escaped.
-/

namespace Portcullis.Text

/-- The character shows as itself. -/
def isShown (c : Char) : Bool :=
  32 ≤ c.toNat && c.toNat != 127 && !Unicode.concealedTable.covers c.toNat

/-- A character between quotes. -/
def quotedChar (c : Char) : List Char :=
  match c with
  | '"' => ['\\', '"']
  | '\\' => ['\\', '\\']
  | '\n' => ['\\', 'n']
  | '\r' => ['\\', 'r']
  | '\t' => ['\\', 't']
  | c =>
    if c.toNat = 0 then ['\\', '0']
    else if isShown c then [c]
    else ['\\', 'u', '\x7b'] ++ Nat.toDigits 16 c.toNat ++ ['\x7d']

/-- The text between quotes. -/
def quoted (s : String) : String :=
  String.ofList ('"' :: s.toList.flatMap quotedChar ++ ['"'])

end Portcullis.Text
