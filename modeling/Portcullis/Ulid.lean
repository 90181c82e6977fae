/-!
# Sortable identifiers

An identifier is a number of 128 bits, written as 26 characters of Crockford's base 32. Lower case letters are read as
upper case ones, and writing gives upper case. The 26 characters carry 130 bits: reading drops the two highest.

* `Ulid.parse`: reading, with the two ways to fail.
* `Ulid.text`: writing.
-/

namespace Portcullis

/-- An identifier of 128 bits. -/
structure Ulid where
  bits : BitVec 128
  deriving DecidableEq, Repr

namespace Ulid

/-- The 32 digits, by value. -/
def digits : List Char :=
  "0123456789ABCDEFGHJKMNPQRSTVWXYZ".toList

/-- The value of a digit, in either case. -/
def digitValue? (c : Char) : Option Nat :=
  digits.findIdx? (· == c.toUpper)

/-- The digit for a value below 32. -/
def digitOf (n : Nat) : Char :=
  digits.getD n '0'

/-- Why a text is no identifier. -/
inductive Fault
  /-- It has not 26 bytes. -/
  | length
  /-- It holds a character that is no digit. -/
  | character
  deriving DecidableEq, Repr

/-- What a fault says. -/
def Fault.message : Fault → String
  | .length => "invalid length"
  | .character => "invalid character"

/-- Appends five bits; the highest five fall out. -/
def push (id : BitVec 128) (n : Nat) : BitVec 128 :=
  (id <<< 5) ||| BitVec.ofNat 128 n

/-- Reads an identifier. The length is counted in bytes and is checked first. -/
def parse (s : String) : Except Fault Ulid :=
  if s.utf8ByteSize ≠ 26 then .error .length
  else match s.toList.mapM digitValue? with
    | some values => .ok ⟨values.foldl push 0⟩
    | none => .error .character

/-- The five bits that digit `i` from the left stands for; the first digit stands for three bits only. -/
def digitAt (id : Ulid) (i : Nat) : Nat :=
  (id.bits >>> (5 * (25 - i))).toNat % 32

/-- The 26 characters of an identifier. -/
def text (id : Ulid) : String :=
  String.ofList ((List.range 26).map fun i => digitOf (id.digitAt i))

/-- The identifier with the value `n`. -/
def ofNat (n : Nat) : Ulid :=
  ⟨BitVec.ofNat 128 n⟩

end Ulid

end Portcullis
