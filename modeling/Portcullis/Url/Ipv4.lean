import Portcullis.Text.Basic
import Portcullis.Codec.Percent

/-!
# IPv4 addresses in host names

A host name whose last part is a number is an IPv4 address and nothing else. Parts may be written in octal (after `0`)
or hexadecimal (after `0x`), and a last part may stand for several bytes.

* `Ipv4.parse?`: the address, of at most 32 bits.
-/

namespace Portcullis.Ipv4

/-- The value of digits to a base up to 16. -/
def digits? (base : Nat) (cs : List Char) : Option Nat :=
  cs.foldlM (fun n c => (Percent.hexValue? c).bind fun d => if d < base then some (n * base + d) else none) 0

/-- The value of one part. -/
def number? : List Char → Option Nat
  | [] => none
  | '0' :: 'x' :: cs | '0' :: 'X' :: cs => digits? 16 cs
  | '0' :: c :: cs => digits? 8 (c :: cs)
  | cs => digits? 10 cs

/-- The parts of a host name, without an empty last one. -/
def parts (cs : List Char) : List (List Char) :=
  let ps := cs.splitOn '.'
  if ps.length > 1 ∧ ps.getLast? = some [] then ps.dropLast else ps

/-- Does the host name end in a number? -/
def endsInNumber (cs : List Char) : Bool :=
  match (parts cs).getLast? with
  | some last => (!last.isEmpty && last.all Char.isDigit) || (number? last).isSome
  | none => false

/-- Puts the parts together: all but the last are bytes, and the last fills what is left of the 32 bits. -/
def assemble? : Nat → List Nat → Option Nat
  | _, [] => none
  | place, [n] => if n < Nat.pow 256 place then some n else none
  | place, n :: ns => do
    let rest ← assemble? (place - 1) ns
    if n < 256 then some (n * Nat.pow 256 (place - 1) + rest) else none

/-- Reads an address. -/
def parse? (cs : List Char) : Option Nat := do
  let ns ← (parts cs).mapM number?
  if ns.length ≤ 4 then assemble? 4 ns else none

/-- Writes an address. -/
def text (n : Nat) : String :=
  String.intercalate "." ((List.range 4).map fun i => Text.decimal (n / Nat.pow 256 (3 - i) % 256))

end Portcullis.Ipv4
