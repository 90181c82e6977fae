import Portcullis.Codec.Utf8

/-!
# Percent escapes

A byte written as `%` and two hexadecimal digits. A `%` without two digits stands for itself.
-/

namespace Portcullis.Percent

/-- The value of a hexadecimal digit, in either case. -/
def hexValue? (c : Char) : Option Nat :=
  if c.isDigit then some (c.toNat - 48)
  else if 'a' ≤ c ∧ c ≤ 'f' then some (c.toNat - 87)
  else if 'A' ≤ c ∧ c ≤ 'F' then some (c.toNat - 55)
  else none

/-- The byte that two hexadecimal digits stand for. -/
def pair? (h l : Char) : Option UInt8 := do
  return UInt8.ofNat ((← hexValue? h) * 16 + (← hexValue? l))

/-- The bytes of a text after its escapes have been read. -/
def decode : List Char → List UInt8
  | '%' :: h :: l :: cs =>
    match pair? h l with
    | some b => b :: decode cs
    | none => String.utf8EncodeChar '%' ++ decode (h :: l :: cs)
  | c :: cs => String.utf8EncodeChar c ++ decode cs
  | [] => []
termination_by cs => cs.length

/-- A byte as an escape. -/
def escape (b : UInt8) : List Char :=
  let digit (n : Nat) := (Nat.digitChar n).toUpper
  ['%', digit (b.toNat / 16), digit (b.toNat % 16)]

end Portcullis.Percent
