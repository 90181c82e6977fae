import Portcullis.Yaml.Node

/-!
# Documents

A document is a node in which references lead to anchored nodes of the same document, maybe back to one that holds the
reference. Anchors are numbered as they come: by how many names have been anchored before. A reference leads to the
number that its name has where the reference stands, and of several nodes with one number to the last that begins.

* `Document.parse`: the document of a text.
* `Document.target?`: where a reference leads.
-/

namespace Portcullis.Yaml

/-- A node under a number. -/
structure Anchored where
  number : Nat
  /-- How many anchored nodes begin before it. -/
  start : Nat
  node : Node Nat

/-- The anchors that have been met. -/
structure Anchors where
  /-- The number of every name. -/
  numbers : List (String × Nat) := []
  /-- How many anchored nodes have begun. -/
  started : Nat := 0
  nodes : List Anchored := []

namespace Anchors

/-- An anchored node begins. -/
def enter (a : Anchors) (name : String) : Anchors where
  numbers := (name, a.numbers.length) :: a.numbers.filter (·.1 != name)
  started := a.started + 1
  nodes := a.nodes

/-- The anchored node that began under a number is complete. -/
def leave (a : Anchors) (number start : Nat) (node : Node Nat) : Anchors :=
  { a with nodes := ⟨number, start, node⟩ :: a.nodes }

end Anchors

/-- A step through a node in which anchors are met. -/
abbrev Resolving (α : Type) := StateT Anchors (Except Fault) α

/-- Resolves what an anchor may stand in front of. -/
def withAnchor (m : Marks) (inner : Resolving (Node Nat)) : Resolving (Node Nat) := do
  match m.anchor with
  | none => inner
  | some name =>
    let before ← get
    set (before.enter name)
    let node ← inner
    modify (·.leave before.numbers.length before.started node)
    return node

mutual

/-- Resolves a node. -/
def resolve : Node String → Resolving (Node Nat)
  | .reference name => do
    match (← get).numbers.lookup name with
    | some number => return .reference number
    | none => throw .reference
  | .scalar m style text => withAnchor m (pure (.scalar m style text))
  | .list m items => withAnchor m (do return .list m (← resolveItems items))
  | .table m entries => withAnchor m (do return .table m (← resolveEntries entries))

/-- Resolves the items of a list. -/
def resolveItems : List (Node String) → Resolving (List (Node Nat))
  | [] => return []
  | x :: xs => do
    let x ← resolve x
    return x :: (← resolveItems xs)

/-- Resolves the entries of a table. -/
def resolveEntries : List (Node String × Node String) → Resolving (List (Node Nat × Node Nat))
  | [] => return []
  | (k, v) :: rest => do
    let k ← resolve k
    let v ← resolve v
    return (k, v) :: (← resolveEntries rest)

end

/-- A document. -/
structure Document where
  anchored : List Anchored
  root : Node Nat

namespace Document

/-- The node that references to a number lead to. -/
def target? (anchored : List Anchored) (number : Nat) : Option (Node Nat) :=
  ((anchored.filter (·.number = number)).foldl (fun (last : Option Anchored) a =>
    if last.any (a.start < ·.start) then last else some a) none).map (·.node)

/-- The document of a text. A text without one has an empty document. -/
def parse (s : String) : Except Fault Document := do
  match ← Node.ofTokens (← tokens s) with
  | none => return ⟨[], .empty⟩
  | some node =>
    let (root, anchors) ← (resolve node).run {}
    return ⟨anchors.nodes, root⟩

end Document

end Portcullis.Yaml
