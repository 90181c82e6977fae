import Portcullis.Yaml.Tokens

/-!
# Nodes

Scalars, lists and tables, as the tokens of a text make them. A node may carry an anchor and a tag; where nothing is
written, an empty plain scalar stands. `ρ` is what a reference to another node is given by.

* `Node.ofTokens`: the nodes of a text, of which there is at most one.
-/

namespace Portcullis.Yaml

/-- What stands in front of a node. -/
structure Marks where
  anchor : Option String := none
  tag : Option String := none
  deriving DecidableEq, Repr

/-- Does nothing stand there? -/
def Marks.isEmpty (m : Marks) : Bool :=
  m.anchor.isNone && m.tag.isNone

/-- A node. -/
inductive Node (ρ : Type)
  | reference (target : ρ)
  | scalar (marks : Marks) (style : Style) (text : String)
  | list (marks : Marks) (items : List (Node ρ))
  | table (marks : Marks) (entries : List (Node ρ × Node ρ))

namespace Node

/-- The node that stands where nothing is written. -/
def empty {ρ : Type} : Node ρ :=
  .scalar {} .plain ""

/-! ## Tags -/

/-- What handles at the start of tags stand for. -/
abbrev Handles := List (String × String)

/-- The handles that need no declaration. -/
def knownHandles : Handles :=
  [("!", "!"), ("!!", "tag:yaml.org,2002:")]

/-- The tag of a handle and a suffix. -/
def tagOf (handles : Handles) (handle suffix : String) : Except Fault String :=
  if handle.isEmpty then .ok suffix
  else match handles.lookup handle with
    | some base => .ok (base ++ suffix)
    | none => .error .tag

/-- Reads what stands in front of a node: at most an anchor and a tag, in either order. -/
def marks (handles : Handles) : List Token → Except Fault (Marks × List Token)
  | .anchor name :: .tag handle suffix :: ts | .tag handle suffix :: .anchor name :: ts => do
    return (⟨some name, some (← tagOf handles handle suffix)⟩, ts)
  | .anchor name :: ts => return (⟨some name, none⟩, ts)
  | .tag handle suffix :: ts => do return (⟨none, some (← tagOf handles handle suffix)⟩, ts)
  | ts => return ({}, ts)

/-! ## Collections -/

/-- Does one of these tokens come next? -/
def nextIs (stops : List Token) (ts : List Token) : Bool :=
  ts.head?.any stops.contains

/-- The tokens after the comma that all items but the first need. -/
def afterComma (first : Bool) : List Token → Except Fault (List Token)
  | ts =>
    if first then .ok ts
    else match ts with
      | .comma :: ts => .ok ts
      | _ => .error .arrangement

mutual

/-- Reads a node. Collections in block style are read where `block` says so, and lists that are not indented where
`indentless` does. The first number bounds the depth of the calls. -/
def parse (handles : Handles) (block indentless : Bool) : Nat → List Token → Except Fault (Node String × List Token)
  | 0, _ => .error .arrangement
  | _ + 1, .reference name :: ts => .ok (.reference name, ts)
  | n + 1, ts => do
    let (m, ts) ← marks handles ts
    match ts with
    | .scalar style text :: ts => return (.scalar m style text, ts)
    | .flowList :: ts => do
      let (items, ts) ← flowItems handles true n ts
      return (.list m items, ts)
    | .flowTable :: ts => do
      let (entries, ts) ← flowEntries handles true n ts
      return (.table m entries, ts)
    | .blockList :: ts' => do
      if !block then return ← unwritten m ts
      let (items, ts) ← blockItems handles n ts'
      return (.list m items, ts)
    | .blockTable :: ts' => do
      if !block then return ← unwritten m ts
      let (entries, ts) ← blockEntries handles n ts'
      return (.table m entries, ts)
    | .item :: _ => do
      if !indentless then return ← unwritten m ts
      let (items, ts) ← indentlessItems handles n ts
      return (.list m items, ts)
    | ts => unwritten m ts

/-- A node of which only the marks are written. -/
def unwritten (m : Marks) (ts : List Token) : Except Fault (Node String × List Token) :=
  if m.isEmpty then .error .arrangement else .ok (.scalar m .plain "", ts)

/-- Reads a node unless one of the given tokens comes next. -/
def parseUnless (handles : Handles) (stops : List Token) (block indentless : Bool) :
    Nat → List Token → Except Fault (Node String × List Token)
  | 0, _ => .error .arrangement
  | n + 1, ts => if nextIs stops ts then .ok (empty, ts) else parse handles block indentless n ts

/-- Reads the items of a list in block style. -/
def blockItems (handles : Handles) : Nat → List Token → Except Fault (List (Node String) × List Token)
  | 0, _ => .error .arrangement
  | n + 1, .item :: ts => do
    let (x, ts) ← parseUnless handles [.item, .blockEnd] true false n ts
    let (xs, ts) ← blockItems handles n ts
    return (x :: xs, ts)
  | _ + 1, .blockEnd :: ts => .ok ([], ts)
  | _ + 1, _ => .error .arrangement

/-- Reads the items of a list that is not indented. -/
def indentlessItems (handles : Handles) : Nat → List Token → Except Fault (List (Node String) × List Token)
  | 0, _ => .error .arrangement
  | n + 1, .item :: ts => do
    let (x, ts) ← parseUnless handles [.item, .key, .value, .blockEnd] true false n ts
    let (xs, ts) ← indentlessItems handles n ts
    return (x :: xs, ts)
  | _ + 1, ts => .ok ([], ts)

/-- Reads a value after its colon, if there is one. -/
def parseValue (handles : Handles) (stops : List Token) (block : Bool) :
    Nat → List Token → Except Fault (Node String × List Token)
  | 0, _ => .error .arrangement
  | n + 1, .value :: ts => parseUnless handles stops block block n ts
  | _ + 1, ts => .ok (empty, ts)

/-- Reads the entries of a table in block style. -/
def blockEntries (handles : Handles) :
    Nat → List Token → Except Fault (List (Node String × Node String) × List Token)
  | 0, _ => .error .arrangement
  | n + 1, .key :: ts => do
    let (k, ts) ← parseUnless handles [.key, .value, .blockEnd] true true n ts
    let (v, ts) ← parseValue handles [.key, .value, .blockEnd] true n ts
    let (rest, ts) ← blockEntries handles n ts
    return ((k, v) :: rest, ts)
  | _ + 1, .blockEnd :: ts => .ok ([], ts)
  | _ + 1, _ => .error .arrangement

/-- Reads an entry that stands in a list by itself. Where it has no key, the token after its indicator is dropped. -/
def lonePair (handles : Handles) : Nat → List Token → Except Fault (Node String × List Token)
  | 0, _ => .error .arrangement
  | n + 1, ts => do
    let (k, ts) ← if nextIs [.value, .comma, .flowListEnd] ts then pure (empty, ts.drop 1)
      else parse handles false false n ts
    let (v, ts) ← parseValue handles [.comma, .flowListEnd] false n ts
    return (.table {} [(k, v)], ts)

/-- Reads the items of a list in flow style. -/
def flowItems (handles : Handles) (first : Bool) :
    Nat → List Token → Except Fault (List (Node String) × List Token)
  | 0, _ => .error .arrangement
  | _ + 1, .flowListEnd :: ts => .ok ([], ts)
  | n + 1, ts => do
    match ← afterComma first ts with
    | .flowListEnd :: ts => return ([], ts)
    | ts =>
      let (x, ts) ← match ts with
        | .key :: ts => lonePair handles n ts
        | ts => parse handles false false n ts
      let (xs, ts) ← flowItems handles false n ts
      return (x :: xs, ts)

/-- Reads an entry of a table in flow style. -/
def flowEntry (handles : Handles) : Nat → List Token → Except Fault ((Node String × Node String) × List Token)
  | 0, _ => .error .arrangement
  | n + 1, .key :: ts => do
    let (k, ts) ← parseUnless handles [.value, .comma, .flowTableEnd] false false n ts
    let (v, ts) ← parseValue handles [.comma, .flowTableEnd] false n ts
    return ((k, v), ts)
  | n + 1, ts => do
    let (k, ts) ← parse handles false false n ts
    return ((k, empty), ts)

/-- Reads the entries of a table in flow style. -/
def flowEntries (handles : Handles) (first : Bool) :
    Nat → List Token → Except Fault (List (Node String × Node String) × List Token)
  | 0, _ => .error .arrangement
  | _ + 1, .flowTableEnd :: ts => .ok ([], ts)
  | n + 1, ts => do
    match ← afterComma first ts with
    | .flowTableEnd :: ts => return ([], ts)
    | ts =>
      let (e, ts) ← flowEntry handles n ts
      let (es, ts) ← flowEntries handles false n ts
      return (e :: es, ts)

end

/-! ## Documents -/

/-- Reads the directives of a document: one version at most, and no handle twice. -/
def directives (version : Bool) (handles : Handles) : List Token → Except Fault (Handles × List Token)
  | .version major minor :: ts =>
    if version || major != 1 || !(minor == 1 || minor == 2) then .error .directive else directives true handles ts
  | .handle name base :: ts =>
    if (handles.lookup name).isSome then .error .directive else directives version (handles ++ [(name, base)]) ts
  | ts => .ok (handles, ts)

/-- Does a document end with the next token, or nothing follow? -/
def endsDocument : List Token → Bool
  | [] => true
  | .version .. :: _ | .handle .. :: _ | .documentStart :: _ | .documentEnd :: _ => true
  | _ => false

/-- Reads the node of the first document. -/
def first (ts : List Token) : Except Fault (Node String × List Token) :=
  let bound := 4 * ts.length + 4
  match ts with
  | .version .. :: _ | .handle .. :: _ | .documentStart :: _ => do
    let (declared, ts) ← directives false [] ts
    match ts with
    | .documentStart :: ts =>
      if endsDocument ts then return (empty, ts) else parse (declared ++ knownHandles) true false bound ts
    | _ => throw .directive
  | ts => parse knownHandles true false bound ts

/-- The node of a text, if there is one. -/
def ofTokens (ts : List Token) : Except Fault (Option (Node String)) :=
  if ts.isEmpty then .ok none
  else do
    let (node, ts) ← first ts
    if ts.all (· == .documentEnd) then return some node else throw .documents

end Node

end Portcullis.Yaml
