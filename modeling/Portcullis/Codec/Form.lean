import Portcullis.Codec.Percent

/-!
# Form data

Names and values as a browser submits them: pairs between `&`, `+` for a blank, percent escapes for the rest.
-/

namespace Portcullis.Form

/-- The text that one part stands for. -/
def decodePart (cs : List Char) : String :=
  String.ofList (Utf8.decodeLossy (Percent.decode (cs.map fun c => if c = '+' then ' ' else c)))

/-- Reads one pair; a pair without `=` has an empty value. -/
def decodePair (cs : List Char) : String × String :=
  (decodePart (cs.takeWhile (· != '=')), decodePart ((cs.dropWhile (· != '=')).drop 1))

/-- Reads form data; empty parts between `&` are left out. -/
def decode (s : String) : List (String × String) :=
  ((s.toList.splitOn '&').filter (!·.isEmpty)).map decodePair

end Portcullis.Form
