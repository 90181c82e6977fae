import Portcullis.Settings.Basic
import Portcullis.Yaml.Document

/-!
# Settings in YAML

What the nodes of a YAML document are to a reader of settings. A plain scalar is what the reader wants it to be, if it
can be; elsewhere the core schema says what it is (`settleScalar`).

* `Settings.ofYaml?`: the settings that a text holds.
-/

namespace Portcullis

namespace Yaml

open Settings (View Wanted Datum)

/-! ## The core schema -/

/-- The start of the tags of the core schema. -/
def coreTag (name : String) : String :=
  "tag:yaml.org,2002:" ++ name

/-- The spellings of nothing. -/
def isNullText (s : String) : Bool :=
  ["null", "Null", "NULL", "~"].contains s

/-- The truth value that a text spells. -/
def flag? (s : String) : Option Bool :=
  if ["true", "True", "TRUE"].contains s then some true
  else if ["false", "False", "FALSE"].contains s then some false
  else none

/-- Is this a run of digits with a zero in front? Such a text is no number. -/
def isPaddedDigits (cs : List Char) : Bool :=
  match Binary64.spanSign cs with
  | (_, '0' :: c :: cs) => (c :: cs).all Char.isDigit
  | _ => false

/-- The value of a digit of a base up to 16. -/
def digitIn? (base : Nat) (c : Char) : Option Nat :=
  (Percent.hexValue? c).filter (· < base)

/-- The value of a non-empty run of digits of a base. -/
def digitsIn? (base : Nat) (cs : List Char) : Option Nat :=
  if cs.isEmpty then none else cs.foldlM (fun n c => (digitIn? base c).map (n * base + ·)) 0

/-- The base that the start of a number gives, and the digits. -/
def spanBase : List Char → Nat × List Char
  | '0' :: 'x' :: cs => (16, cs)
  | '0' :: 'o' :: cs => (8, cs)
  | '0' :: 'b' :: cs => (2, cs)
  | cs => (10, cs)

/-- The value of digits without a sign; those of base ten have no zeros in front. -/
def magnitude? (cs : List Char) : Option Nat :=
  if isPaddedDigits cs then none else digitsIn? (spanBase cs).1 (spanBase cs).2

/-- Reads an integer that may have a plus sign. -/
def unsigned? : List Char → Option Nat
  | '+' :: cs => magnitude? cs
  | cs => magnitude? cs

/-- Reads an integer that may have a sign. -/
def integer? (cs : List Char) : Option Int :=
  match cs with
  | '-' :: digits => (magnitude? digits).map fun n => -(n : Int)
  | cs => (unsigned? cs).map fun n => (n : Int)

/-- Reads a number with a point or an exponent, or the name of an infinity or of no number. -/
def number? (s : String) : Option Binary64 :=
  let cs := s.toList
  let unsigned := match cs with
    | '+' :: cs => cs
    | cs => cs
  let name := String.ofList unsigned
  if [".inf", ".Inf", ".INF"].contains name then some (.infinite false)
  else if ["-.inf", "-.Inf", "-.INF"].contains s then some (.infinite true)
  else if [".nan", ".NaN", ".NAN"].contains s then some .nan
  else if isPaddedDigits cs || (cs != unsigned && (unsigned.head? = some '+' || unsigned.head? = some '-')) then none
  else
    (Binary64.parse? name).filter fun
      | .finite .. => true
      | _ => false

/-- An integer as part of a tree; those that no reader could take are refused. -/
def datumOfInteger? (n : Int) : Option Datum :=
  if Settings.fitsWord n then some (.integer n) else none

/-- Does an integer have at most 128 bits? -/
def fitsWide (n : Int) : Bool :=
  -0x80000000000000000000000000000000 ≤ n ∧ n < 0x100000000000000000000000000000000

/-- What a plain scalar is by itself. -/
def settlePlain (s : String) : Option Datum :=
  if s.isEmpty || isNullText s then some .null
  else match flag? s with
    | some b => some (.flag b)
    | none =>
      match (integer? s.toList).filter fitsWide with
      | some n => datumOfInteger? n
      | none => some (((number? s).map .number).getD (.text s))

/-- Is this a tag of the document's own, and not of a schema? -/
def isLocalTag (tag : String) : Bool :=
  1 < tag.length && tag.toList.head? = some '!'

/-- What a scalar is by itself: what its tag says, or what it looks like. A tag of the document's own makes it nothing
that settings know. -/
def settleScalar (tag : Option String) (style : Style) (s : String) : Option Datum :=
  match tag with
  | none => if style = .plain then settlePlain s else some (.text s)
  | some t =>
    if isLocalTag t then none
    else if t = coreTag "bool" then (flag? s).map .flag
    else if t = coreTag "int" then (integer? s.toList).bind datumOfInteger?
    else if t = coreTag "float" then (number? s).map .number
    else if t = coreTag "null" then if isNullText s then some .null else none
    else if t = "!" && style = .plain then settlePlain s
    else some (.text s)

/-! ## Nodes to a reader -/

/-- A node of a document. -/
structure Located where
  anchored : List Anchored
  node : Node Nat

namespace Located

/-- A node of the same document. -/
def part (l : Located) (node : Node Nat) : Located :=
  { l with node := node }

/-- The node itself, or the one that it refers to. -/
def target (l : Located) : Node Nat :=
  match l.node with
  | .reference number => (Document.target? l.anchored number).getD .empty
  | node => node

/-- The scalar may be a value of a type of the core schema: it is plain, or its lines carry the tag of the type. -/
def mayBe (type : String) (marks : Marks) (style : Style) : Bool :=
  style = .plain || (style = .literal && marks.tag = some (coreTag type))

/-- What a scalar is where something may be left empty. -/
def optionalView {α : Type} (marks : Marks) (style : Style) (s : String) : View α :=
  if style ≠ .plain then .text s
  else match marks.tag with
    | none => if s.isEmpty || isNullText s then .null else .text s
    | some t => if t ≠ coreTag "null" then .text s else if isNullText s then .null else .unusable

/-- What a scalar is where one of several names is wanted: the text, or a tag with nothing after it. -/
def choiceView {α : Type} (marks : Marks) (style : Style) (s : String) : View α :=
  match marks.tag.filter isLocalTag with
  | none => .text s
  | some t =>
    if style = .plain && (s.isEmpty || isNullText s) then .text (String.ofList (t.toList.drop 1)) else .unusable

/-- What a scalar is to a reader. -/
def scalarView {α : Type} (marks : Marks) (style : Style) (s : String) : Wanted → View α
  | .flag => if mayBe "bool" marks style then ((flag? s).map .flag).getD .unusable else .unusable
  | .number =>
    if mayBe "int" marks style then ((unsigned? s.toList).map fun n => .integer n).getD .unusable else .unusable
  | .text | .fieldName | .nothing => .text s
  | .optional => optionalView marks style s
  | .list => if style = .plain && s.isEmpty then .list [] else .unusable
  | .table | .record => if style = .plain && s.isEmpty then .table [] else .unusable
  | .choice => choiceView marks style s

/-- What a node is to a reader. Records are not written as lists, nor choices as tables. -/
def view (wanted : Wanted) (l : Located) : View Located :=
  match l.target with
  | .reference _ => .unusable
  | .scalar marks style s => scalarView marks style s wanted
  | .list _ items => if wanted = .record then .unusable else .list (items.map l.part)
  | .table _ entries => if wanted = .choice then .unusable else .table (entries.map fun (k, v) => (l.part k, l.part v))

/-- The tree with the type of every part settled. The number bounds how deep the tree is. -/
def settle : Nat → Located → Option Datum
  | 0, _ => none
  | depth + 1, l =>
    match l.target with
    | .reference _ => none
    | .scalar marks style s => settleScalar marks.tag style s
    | .list marks items =>
      if marks.tag.any isLocalTag then none
      else .list <$> items.mapM fun x => settle depth (l.part x)
    | .table marks entries =>
      if marks.tag.any isLocalTag then none
      else .table <$> entries.mapM fun (k, v) => do return (← settle depth (l.part k), ← settle depth (l.part v))

/-- How deep a tree may be. -/
def maxDepth : Nat :=
  128

instance : Settings.Tree Located where
  view := view
  settle := settle maxDepth

end Located

end Yaml

/-- The settings that a text holds, if it holds any. -/
def Settings.ofYaml? (s : String) : Option Settings := do
  let document ← (Yaml.Document.parse s).toOption
  (Settings.read (⟨document.anchored, document.root⟩ : Yaml.Located)).toOption

end Portcullis
