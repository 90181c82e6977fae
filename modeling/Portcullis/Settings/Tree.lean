import Portcullis.Decimal.Binary64
import Portcullis.Json
import Portcullis.Text.Quoted

/-!
# Trees of settings

Settings are read from trees that come from different formats. A reader asks a tree what it is, and says what it wants
it to be (`Wanted`), because in some formats the same text is a word to one reader and a number to another; the answer
is a `View` of the tree. A `Datum` is a tree whose parts are what they are, whoever asks.

* `Tree`: what a format has to offer.
* `Datum.ofJson`: JSON values as such trees.
-/

namespace Portcullis.Settings

/-- What a reader wants a tree to be. -/
inductive Wanted
  | flag
  | number
  | text
  /-- Something or nothing. -/
  | optional
  | list
  | table
  | record
  /-- One of several names. -/
  | choice
  /-- Nothing at all. -/
  | nothing
  /-- The name of a field. -/
  | fieldName
  deriving DecidableEq, Repr

/-- What a tree is, with trees of type `α` as its parts. -/
inductive View (α : Type)
  | null
  | flag (b : Bool)
  | integer (n : Int)
  | number (x : Binary64)
  | text (s : String)
  | list (items : List α)
  | table (entries : List (α × α))
  /-- Nothing that any reader could use. -/
  | unusable

/-- What a view is called in messages. -/
def View.describe {α : Type} : View α → String
  | .null => "null"
  | .flag b => "boolean `" ++ (if b then "true" else "false") ++ "`"
  | .integer n => "integer `" ++ toString n ++ "`"
  | .number x => "floating point `" ++ x.text ++ "`"
  | .text s => "string " ++ Text.quoted s
  | .list _ => "sequence"
  | .table _ => "map"
  | .unusable => "value"

/-- A tree whose parts are what they are, whoever asks. -/
inductive Datum
  | null
  | flag (b : Bool)
  | integer (n : Int)
  | number (x : Binary64)
  | text (s : String)
  | list (items : List Datum)
  | table (entries : List (Datum × Datum))

/-- A format of trees. -/
class Tree (α : Type) where
  /-- What a tree is to a reader. -/
  view : Wanted → α → View α
  /-- The tree with the type of every part settled, if that can be done. -/
  settle : α → Option Datum

/-- Does an integer fit 64 bits, with a sign or without? -/
def fitsWord (n : Int) : Bool :=
  -0x8000000000000000 ≤ n ∧ n < 0x10000000000000000

namespace Datum

/-- What a tree is. -/
def view : Datum → View Datum
  | .null => .null
  | .flag b => .flag b
  | .integer n => .integer n
  | .number x => .number x
  | .text s => .text s
  | .list items => .list items
  | .table entries => .table entries

instance : Tree Datum where
  view _ := view
  settle := some

/-! ## JSON values -/

/-- A decimal number is an integer where it is written without places and fits 64 bits, signed or not. -/
def ofDecimal (mantissa : Int) (places : Nat) : Datum :=
  if places = 0 ∧ fitsWord mantissa then .integer mantissa
  else .number (.ofSignedRatio (mantissa < 0) mantissa.natAbs (Nat.pow 10 places))

mutual

/-- A JSON value as a tree. -/
def ofJson : Json → Datum
  | .null => .null
  | .bool b => .flag b
  | .number mantissa places => ofDecimal mantissa places
  | .string s => .text s
  | .array items => .list (ofItems items)
  | .object entries => .table ((ofEntries entries).mergeSort (fun a b => a.1 ≤ b.1) |>.map fun (k, v) => (.text k, v))

/-- The items of an array. -/
def ofItems : List Json → List Datum
  | [] => []
  | v :: vs => ofJson v :: ofItems vs

/-- The entries of an object. -/
def ofEntries : List (String × Json) → List (String × Datum)
  | [] => []
  | (k, v) :: es => (k, ofJson v) :: ofEntries es

end

end Datum

end Portcullis.Settings
