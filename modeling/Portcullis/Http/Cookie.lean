import Portcullis.Text.Basic

/-!
# Cookies

Cookies as a client sends them: `name=value` pairs between semicolons. A pair without `=` or without a name is left out.
-/

namespace Portcullis.Cookie

/-- Reads one pair. -/
def parsePair (cs : List Char) : Option (String × String) :=
  match Text.cut '=' cs with
  | some (name, value) =>
    let name := Text.trim name
    if name.isEmpty then none else some (String.ofList name, String.ofList (Text.trim value))
  | none => none

/-- Reads the value of a `cookie` header. -/
def parseAll (s : String) : List (String × String) :=
  (s.toList.splitOn ';').filterMap parsePair

/-- The `set-cookie` value that gives a client its session: the pair, for all paths and hidden from scripts. -/
def render (name value : String) : String :=
  name ++ "=" ++ value ++ "; Path=/; HttpOnly"

end Portcullis.Cookie
