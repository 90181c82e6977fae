/-!
# Tables of characters

Properties of characters are written as rows of hexadecimal numbers: rows are separated by blanks, the numbers of a row
by points, and rows are in ascending order of their first number. `Table.find?` finds the row in whose range a
character lies.
-/

namespace Portcullis.Unicode

/-- The value of a lower case hexadecimal digit. -/
def hexDigit (c : Char) : Nat :=
  if c.isDigit then c.toNat - 48 else c.toNat - 87

/-- The value of a hexadecimal number. -/
def hexNumber (cs : List Char) : Nat :=
  cs.foldl (fun n c => n * 16 + hexDigit c) 0

/-- The numbers of one row. -/
def readRow (cs : List Char) : List Nat :=
  (cs.splitOn '.').map hexNumber

/-- All rows of a text. -/
def readRows (text : String) : List (List Nat) :=
  ((text.toList.splitOnP Char.isWhitespace).filter (!·.isEmpty)).map readRow

/-- A row that holds for `count` characters from `first` on. -/
structure Row where
  first : Nat
  count : Nat
  /-- What the row says of them. -/
  data : List Nat
  deriving DecidableEq, Inhabited

/-- Rows in ascending order, their ranges apart. -/
abbrev Table := Array Row

namespace Table

/-- A table of ranges: `first`, or `first.count`, and what the row says of them. -/
def ofRanges (text : String) : Table :=
  ((readRows text).map fun
    | [] => ⟨0, 0, []⟩
    | [n] => ⟨n, 1, []⟩
    | n :: count :: data => ⟨n, count, data⟩).toArray

/-- A table of single characters, each with what the row says of it. -/
def ofSingles (text : String) : Table :=
  ((readRows text).map fun
    | [] => ⟨0, 0, []⟩
    | n :: data => ⟨n, 1, data⟩).toArray

/-- A table of runs: `character.target`, or `first.count.stride.target` for the `count` characters that lie `stride`
apart and whose targets do too; with the stride 0 they follow one another and share the target. -/
def ofRuns (text : String) : Table :=
  ((readRows text).map fun
    | [n, target] => (⟨n, 1, [1, target]⟩ : Row)
    | [n, count, stride, target] => ⟨n, if stride = 2 then 2 * count - 1 else count, [stride, target]⟩
    | _ => ⟨0, 0, []⟩).toArray

/-- How many of the rows from `low` up to `high` start at `n` or before it, counted from the first row of all. -/
def position (t : Table) (n low high : Nat) : Nat :=
  if low < high then
    let middle := (low + high) / 2
    if (t[middle]?.any (·.first ≤ n)) then position t n (middle + 1) high else position t n low middle
  else low
termination_by high - low

/-- The row in whose range `n` lies. -/
def find? (t : Table) (n : Nat) : Option Row :=
  (t[t.position n 0 t.size - 1]?).filter fun row => row.first ≤ n && n < row.first + row.count

/-- Does `n` lie in the range of some row? -/
def covers (t : Table) (n : Nat) : Bool :=
  (t.find? n).isSome

/-- What the row of `n` says first. -/
def value? (t : Table) (n : Nat) : Option Nat :=
  (t.find? n).bind (·.data.head?)

/-- The target of `n` in a table of runs. -/
def runTarget? (t : Table) (n : Nat) : Option Nat :=
  (t.find? n).bind fun row =>
    match row.data with
    | [stride, target] =>
      if stride = 0 then some target
      else if (n - row.first) % stride = 0 then some (target + (n - row.first))
      else none
    | _ => none

end Table

end Portcullis.Unicode
