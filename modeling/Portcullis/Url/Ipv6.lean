import Portcullis.Url.Ipv4

/-!
# IPv6 addresses

Eight groups of up to four hexadecimal digits; one `::` stands for as many zero groups as are missing; the last two
groups may be written as an IPv4 address. Writing puts `::` for the longest run of two or more zero groups, the first
of those that are equally long.
-/

namespace Portcullis.Ipv6

/-- A group of one to four hexadecimal digits. -/
def group? (cs : List Char) : Option Nat :=
  if cs.isEmpty ∨ 4 < cs.length then none else Ipv4.digits? 16 cs

/-- A byte of a dotted address: no leading zero, at most 255. -/
def byte? (cs : List Char) : Option Nat :=
  if cs.length > 1 ∧ cs.head? = some '0' then none
  else (Text.decimalValue? cs).filter (· < 256)

/-- The two groups of a dotted address. -/
def dotted? (cs : List Char) : Option (List Nat) := do
  match ← (cs.splitOn '.').mapM byte? with
  | [a, b, c, d] => some [a * 256 + b, c * 256 + d]
  | _ => none

/-- Groups between colons; the last may be a dotted address if `last` allows it. -/
def groups? (last : Bool) : List (List Char) → Option (List Nat)
  | [] => some []
  | [cs] => if last && cs.contains '.' then dotted? cs else (group? cs).map ([·])
  | cs :: rest => do return (← group? cs) :: (← groups? last rest)

/-- Groups between colons of a text that may be empty. -/
def side? (last : Bool) (cs : List Char) : Option (List Nat) :=
  if cs.isEmpty then some [] else groups? last (cs.splitOn ':')

/-- The parts before and after the first `::`. -/
def cutGap : List Char → Option (List Char × List Char)
  | [] => none
  | [_] => none
  | a :: b :: cs =>
    if a = ':' ∧ b = ':' then some ([], cs) else (cutGap (b :: cs)).map fun (x, y) => (a :: x, y)

/-- Reads the eight groups of an address. -/
def parse? (cs : List Char) : Option (List Nat) := do
  match cutGap cs with
  | none =>
    let all ← side? true cs
    if all.length = 8 then some all else none
  | some (before, after) =>
    let front ← side? false before
    let back ← side? true after
    if front.length + back.length < 8 then
      some (front ++ List.replicate (8 - front.length - back.length) 0 ++ back)
    else none

/-- The length of the run of zeros at the start. -/
def zeros (groups : List Nat) : Nat :=
  (groups.takeWhile (· = 0)).length

/-- Where the longest run of zeros starts and how long it is; the first such. -/
def longestGap (groups : List Nat) : Nat × Nat :=
  (List.range groups.length).foldl
    (fun best i => if best.2 < zeros (groups.drop i) then (i, zeros (groups.drop i)) else best) (0, 0)

/-- A group in lower case hexadecimal digits. -/
def groupText (n : Nat) : String :=
  String.ofList (Nat.toDigits 16 n)

/-- Writes the eight groups of an address. -/
def text (groups : List Nat) : String :=
  let colons (gs : List Nat) := String.intercalate ":" (gs.map groupText)
  let (start, length) := longestGap groups
  if length < 2 then colons groups
  else colons (groups.take start) ++ "::" ++ colons (groups.drop (start + length))

end Portcullis.Ipv6
