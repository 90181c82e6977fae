import Portcullis.Text.Basic
import Portcullis.Unicode.HostMapping
import Portcullis.Unicode.Label
import Portcullis.Url.Punycode

/-!
# Domain names

A domain name is mapped, normalised and written in ASCII, label by label; labels with other characters are written in
Punycode behind `xn--`. A label that comes in Punycode is checked like one that is written out.

* `Domain.toAscii?`: the ASCII form, or nothing if some label is not allowed.
-/

namespace Portcullis.Domain

/-- The mark before a label in Punycode. -/
def aceMark : List Char := "xn--".toList

/-- Characters of ASCII that no domain name may hold. -/
def isDenied (c : Char) : Bool :=
  c.toNat ≤ 32 || c.toNat = 127 || "%#/:<>?@[\\]^|".toList.contains c

/-- Is a label of other than ASCII characters allowed? -/
def isAllowed (label : List Char) : Bool :=
  label.all (fun c => Unicode.isHostValid c && !isDenied c && c != '.') && !(label.head?.any Unicode.isMark) &&
    Unicode.joinersAllowed [] label

/-- The characters that a label stands for. -/
def readLabel? (label : List Char) : Option (List Char) :=
  match Text.after? aceMark label with
  | some coded => do
    if coded.any (128 ≤ ·.toNat) then none
    let decoded ← Punycode.decode? coded
    if decoded.all (·.toNat < 128) || Unicode.normalize decoded ≠ decoded then none
    else if isAllowed decoded then some decoded else none
  | none => if isAllowed label then some label else none

/-- A label in ASCII. -/
def writeLabel (label : List Char) : List Char :=
  if label.all (·.toNat < 128) then label else aceMark ++ Punycode.encode label

/-- The ASCII form of a domain name. -/
def toAscii? (cs : List Char) : Option (List Char) := do
  let mapped ← Unicode.mapHost? cs
  let labels ← ((Unicode.normalize mapped).splitOn '.').mapM readLabel?
  if labels.any Unicode.hasRightToLeft && !labels.all Unicode.directionAllowed then none
  else some (['.'].intercalate (labels.map writeLabel))

end Portcullis.Domain
