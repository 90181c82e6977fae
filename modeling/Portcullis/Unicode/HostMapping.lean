import Portcullis.Unicode.HostMappingTable

/-!
# The mapping of characters in host names

What becomes of a character before a host name is normalised: it stays, is replaced (capital letters by small ones,
variants by the plain character), is left out, or is forbidden.
-/

namespace Portcullis.Unicode

/-- Replacements by one character. -/
def hostSingles : Table := Table.ofRuns hostSingleRows

/-- Replacements by several characters. -/
def hostSeveral : Table := Table.ofSingles hostSeveralRows

/-- Forbidden characters. -/
def hostForbidden : Table := Table.ofRanges hostForbiddenRows

/-- Characters that are left out. -/
def hostIgnored : Table := Table.ofRanges hostIgnoredRows

/-- What becomes of a character. -/
inductive HostFate
  | valid
  | replaced (targets : List Char)
  | ignored
  | forbidden

/-- What becomes of a character. -/
def hostFate (c : Char) : HostFate :=
  let n := c.toNat
  match hostSingles.runTarget? n with
  | some target => .replaced [Char.ofNat target]
  | none =>
    match hostSeveral.find? n with
    | some row => .replaced (row.data.map Char.ofNat)
    | none =>
      if hostIgnored.covers n then .ignored
      else if hostForbidden.covers n then .forbidden
      else .valid

/-- Applies the mapping to a text; nothing if it holds a forbidden character. -/
def mapHost? : List Char → Option (List Char)
  | [] => some []
  | c :: cs =>
    match hostFate c with
    | .valid => (mapHost? cs).map (c :: ·)
    | .replaced targets => (mapHost? cs).map (targets ++ ·)
    | .ignored => mapHost? cs
    | .forbidden => none

/-- Does the mapping leave the character as it is? -/
def isHostValid (c : Char) : Bool :=
  match hostFate c with
  | .valid => true
  | _ => false

end Portcullis.Unicode
