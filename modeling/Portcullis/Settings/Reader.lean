import Portcullis.Settings.Fault
import Portcullis.Settings.Tree

/-!
# Readers of settings

A reader makes a value of a tree or says why it cannot. Readers of records are put together from readers of their
fields: the fields of a tree are looked at in the order in which the tree has them, and what is missing is noticed
after that, in the order in which the record declares its fields.

* `Record.read`: a record, from a table or, where the format has it, from a list.
* `firstForm`: a value that may be written in several forms.
-/

namespace Portcullis.Settings

/-- Makes a value of a tree. -/
abbrev Reader (α β : Type) := α → Except Fault β

variable {α β γ : Type} [Tree α]

/-! ## Single values -/

/-- Refuses a view of another type. -/
def mistyped (v : View α) (expected : String) : Except Fault β :=
  .error (.wrongType v.describe expected)

/-- Reads true or false. -/
def flag : Reader α Bool := fun x =>
  match Tree.view .flag x with
  | .flag b => .ok b
  | v => mistyped v "a boolean"

/-- Reads a natural number of so many bits. -/
def natural (bits : Nat) : Reader α Nat := fun x =>
  let type := "u" ++ Text.decimal bits
  match Tree.view .number x with
  | .integer n =>
    if 0 ≤ n ∧ n < Nat.pow 2 bits then .ok n.toNat else .error (.wrongValue (View.integer (α := α) n).describe type)
  | v => mistyped v type

/-- Reads a text. -/
def text : Reader α String := fun x =>
  match Tree.view .text x with
  | .text s => .ok s
  | v => mistyped v "a string"

/-- Reads what may be left empty. -/
def optional (r : Reader α β) : Reader α (Option β) := fun x =>
  match Tree.view .optional x with
  | .null => .ok none
  | .unusable => mistyped (.unusable : View α) "an optional value"
  | _ => some <$> r x

/-- Reads the items of a list. -/
def list (r : Reader α β) : Reader α (List β) := fun x =>
  match Tree.view .list x with
  | .list items => items.mapM r
  | v => mistyped v "a sequence"

/-! ## Tables -/

/-- A list of entries, sorted by name, with one more entry in place of one of the same name. -/
def insertEntry (name : String) (value : β) : List (String × β) → List (String × β)
  | [] => [(name, value)]
  | (n, v) :: rest =>
    if name = n then (name, value) :: rest
    else if name < n then (name, value) :: (n, v) :: rest
    else (n, v) :: insertEntry name value rest

/-- Reads a table: its entries by name, the last of several of one name. -/
def table (r : Reader α β) : Reader α (List (String × β)) := fun x =>
  match Tree.view .table x with
  | .table entries =>
    entries.foldlM (fun sofar (k, v) => do
      let name ← text k
      return insertEntry name (← r v) sofar) []
  | v => mistyped v "a map"

/-! ## Choices -/

/-- The name that a tree gives, of those that are known; in some formats a number stands for a name by its place. -/
def nameAmong (known : List String) (expected : String) (v : View α) : Except Fault String :=
  match v with
  | .text s => .ok s
  | .integer n =>
    match if n < 0 then none else known[n.toNat]? with
    | some name => .ok name
    | none => .error (.wrongValue v.describe expected)
  | v => mistyped v expected

/-- What is offered under a name. -/
def pick (offers : List (String × β)) (name : String) : Except Fault β :=
  match offers.lookup name with
  | some b => .ok b
  | none => .error (.unknownChoice name (offers.map (·.1)))

/-- Reads one of several names. A table with the name as its only entry, and nothing under it, will do as well. -/
def choice (offers : List (String × β)) : Reader α β := fun x =>
  match Tree.view .choice x with
  | .text s => pick offers s
  | .table [(k, v)] => do
    let b ← pick offers (← nameAmong (offers.map (·.1)) "variant identifier" (Tree.view .fieldName k))
    match Tree.view .nothing v with
    | .null => return b
    | v => mistyped v "unit"
  | .table entries => .error (.wrongValue (View.table entries).describe "map with a single key")
  | v => mistyped v "string or map"

/-- Reads a value that may be written in several forms: the first that fits is taken. -/
def firstForm (type : String) (forms : List (Reader Datum β)) : Reader α β := fun x =>
  match (Tree.settle x).bind fun d => forms.findSome? fun r => (r d).toOption with
  | some b => .ok b
  | none => .error (.noForm type)

/-! ## Records -/

/-- What is given for the fields of a record. -/
inductive Given (α : Type)
  | byName (entries : List (String × α))
  /-- The values of the fields in order, for a record of this type with these fields. -/
  | byPlace (type : String) (names : List String) (items : List α)

/-- What is given for a field. -/
def Given.find? : Given α → String → Option α
  | .byName entries, name => entries.lookup name
  | .byPlace _ names items, name => items[names.idxOf name]?

/-- The fault of a field for which nothing is given. -/
def Given.absent : Given α → String → Fault
  | .byName _, name => .missingField name
  | .byPlace type names _, name =>
    .wrongLength (names.idxOf name) ("struct " ++ type ++ " with " ++ Text.decimal names.length ++
      (if names.length = 1 then " element" else " elements"))

/-- A reader of records. -/
structure Record (α β : Type) where
  /-- The fields, each with a check of what is given for it. -/
  fields : List (String × Reader α Unit)
  /-- Makes the record of what is given. -/
  build : Given α → Except Fault β

namespace Record

instance : Applicative (Record α) where
  pure b := ⟨[], fun _ => .ok b⟩
  map f r := ⟨r.fields, fun g => f <$> r.build g⟩
  seq f x := ⟨f.fields ++ (x ()).fields, fun g => f.build g <*> (x ()).build g⟩

/-- A field; where nothing is given for it, `absent` tells what to take, if that is allowed. -/
def field (name : String) (r : Reader α β) (absent : Given α → Except Fault β) : Record α β where
  fields := [(name, fun x => discard (r x))]
  build g :=
    match g.find? name with
    | some x => r x
    | none => absent g

/-- A field that has to be given. -/
def required (name : String) (r : Reader α β) : Record α β :=
  field name r fun g => .error (g.absent name)

/-- A field with a value of its own where none is given. -/
def withDefault (name : String) (r : Reader α β) (value : β) : Record α β :=
  field name r fun _ => .ok value

/-- A field that need not be in a table. -/
def mayLack (name : String) (r : Reader α β) : Record α (Option β) :=
  field name (optional r) fun
    | .byName _ => .ok none
    | g => .error (g.absent name)

/-- The names of the fields. -/
def names (r : Record α β) : List String :=
  r.fields.map (·.1)

/-- Takes the entries of a table one after the other. Entries that are no fields are passed over, unless `strict`. -/
def collect (r : Record α β) (strict : Bool) : List (α × α) → List (String × α) → Except Fault (List (String × α))
  | [], taken => .ok taken
  | (k, v) :: rest, taken => do
    let name ← nameAmong r.names "field identifier" (Tree.view .fieldName k)
    match r.fields.lookup name with
    | none => if strict then .error (.unknownField name r.names) else r.collect strict rest taken
    | some check =>
      if (taken.lookup name).isSome then .error (.duplicateField name)
      else do
        check v
        r.collect strict rest ((name, v) :: taken)

/-- Reads a record. -/
def read (type : String) (strict : Bool) (r : Record α β) : Reader α β := fun x =>
  match Tree.view .record x with
  | .table entries => do r.build (.byName (← r.collect strict entries []))
  | .list items => do
    let b ← r.build (.byPlace type r.names items)
    if r.names.length < items.length then .error (.wrongLength items.length "fewer elements in array") else return b
  | v => mistyped v ("struct " ++ type)

end Record

end Portcullis.Settings
