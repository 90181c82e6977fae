import Portcullis.Unicode.CompositionTable

/-!
# Normalisation form C

Composed characters are taken apart, marks are brought into canonical order, and what can be composed is composed again.
Syllables of Hangul are composed by arithmetic.
-/

namespace Portcullis.Unicode

/-- Composed characters and their parts. -/
def compositions : Table := Table.ofSingles compositionRows

/-- The composed character of two parts. -/
def pairs : List (Nat × Nat × Nat) :=
  compositions.toList.filterMap fun row =>
    match row.data with
    | [a, b] => some (a, b, row.first)
    | _ => none

/-- Combining classes. -/
def combining : Table := Table.ofRanges combiningRows

/-- The canonical combining class. -/
def combiningClass (c : Char) : Nat :=
  (combining.value? c.toNat).getD 0

/-! ## Taking apart -/

/-- The parts of a Hangul syllable. -/
def hangulParts (n : Nat) : List Char :=
  let s := n - 0xAC00
  let t := s % 28
  [Char.ofNat (0x1100 + s / 588), Char.ofNat (0x1161 + s % 588 / 28)] ++ if t = 0 then [] else [Char.ofNat (0x11A7 + t)]

/-- The parts of a character. The first part of a composed one may be composed itself; `depth` bounds how often. -/
def decompose : Nat → Char → List Char
  | 0, c => [c]
  | depth + 1, c =>
    if 0xAC00 ≤ c.toNat ∧ c.toNat ≤ 0xD7A3 then hangulParts c.toNat
    else match (compositions.find? c.toNat).map (·.data) with
      | some [a, b] => decompose depth (Char.ofNat a) ++ decompose depth (Char.ofNat b)
      | _ => [c]

/-- No character is composed of composed ones more than this often. -/
def decompositionDepth : Nat := 4

/-! ## Canonical order -/

/-- Puts a mark before the marks of higher class that stand at the start. -/
def insertMark (c : Char) (k : Nat) : List (Char × Nat) → List (Char × Nat)
  | [] => [(c, k)]
  | (d, j) :: rest => if k ≠ 0 ∧ j ≠ 0 ∧ j < k then (d, j) :: insertMark c k rest else (c, k) :: (d, j) :: rest

/-- The characters with their classes, marks in canonical order. -/
def order (cs : List Char) : List (Char × Nat) :=
  cs.foldr (fun c sorted => insertMark c (combiningClass c) sorted) []

/-! ## Composing -/

/-- The character composed of two. -/
def compose? (a b : Char) : Option Char :=
  let x := a.toNat
  let y := b.toNat
  if 0x1100 ≤ x ∧ x < 0x1113 ∧ 0x1161 ≤ y ∧ y < 0x1176 then
    some (Char.ofNat (0xAC00 + ((x - 0x1100) * 21 + (y - 0x1161)) * 28))
  else if 0xAC00 ≤ x ∧ x ≤ 0xD7A3 ∧ (x - 0xAC00) % 28 = 0 ∧ 0x11A7 < y ∧ y < 0x11C3 then
    some (Char.ofNat (x + (y - 0x11A7)))
  else (pairs.find? fun (p, q, _) => p = x ∧ q = y).map fun (_, _, n) => Char.ofNat n

/-- Composes what follows a starter. `passed` are the characters kept between it and the rest, latest first, and `last`
is the class of the latest of them. -/
def composeAfter (starter : Char) (passed : List Char) (last : Nat) : List (Char × Nat) → List Char
  | [] => starter :: passed.reverse
  | (c, k) :: rest =>
    let blocked := !passed.isEmpty && (last = 0 || last ≥ k)
    match if blocked then none else compose? starter c with
    | some composed => composeAfter composed passed last rest
    | none =>
      if k = 0 then starter :: passed.reverse ++ composeAfter c [] 0 rest
      else composeAfter starter (c :: passed) k rest

/-- Composes a text in canonical order. -/
def composeAll : List (Char × Nat) → List Char
  | [] => []
  | (c, k) :: rest => if k = 0 then composeAfter c [] 0 rest else c :: composeAll rest

/-- Normalisation form C. -/
def normalize (cs : List Char) : List Char :=
  composeAll (order (cs.flatMap (decompose decompositionDepth)))

end Portcullis.Unicode
