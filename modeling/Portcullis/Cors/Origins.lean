import Portcullis.SetupError
import Portcullis.Unicode.CaseFold
import Portcullis.Url.Basic

/-!
# Origins

Which origins a cross-origin policy allows. A list of origins is read as a whole: an entry `*` allows every origin, an
entry with a `*` inside makes all entries patterns, and otherwise every entry has to be an origin. As with path
patterns, none is refused for being too large to be compiled.
-/

namespace Portcullis.Cors

/-- An origin with wildcards: `*` stands for any text without a slash, and case does not matter. -/
structure OriginPattern where
  text : String
  deriving DecidableEq, Repr

namespace OriginPattern

/-- The step a character of a pattern stands for. -/
def stepOf (c : Char) : Glob.Step :=
  if c = '*' then .run else .exactly c

/-- The pattern stands for the origin. -/
def covers (p : OriginPattern) (origin : String) : Bool :=
  Glob.fits Unicode.sameLetter (p.text.toList.map stepOf) origin.toList

end OriginPattern

/-- Which origins are allowed. -/
inductive Origins
  /-- The origins of a list, without regard to the case of ASCII letters. -/
  | exact (origins : List String)
  /-- Every origin. -/
  | any
  /-- The origins that some pattern stands for. -/
  | patterns (patterns : List OriginPattern)
  /-- The origins that pass a test. -/
  | custom (test : String → Bool)

namespace Origins

/-- Is the origin allowed? -/
def allows : Origins → String → Bool
  | .exact origins, origin => origins.any (Text.sameIgnoringCase · origin)
  | .any, _ => true
  | .patterns ps, origin => ps.any (·.covers origin)
  | .custom test, origin => test origin

/-- Is every origin allowed by declaration? -/
def isAny : Origins → Bool
  | .any => true
  | _ => false

/-- Is the text an origin? It has to be a URL with a host and no query, whose path is the root and is not written. -/
def isOrigin (text : String) : Bool :=
  match Url.parse? text with
  | some url => url.isRoot && text.toList.getLast? != some '/' && url.host.isSome && !url.hasQuery
  | none => false

/-- Reads a list of origins. -/
def ofList (origins : List String) : Except SetupError Origins :=
  if origins.contains "*" then .ok .any
  else if origins.any (·.toList.contains '*') then .ok (.patterns (origins.map OriginPattern.mk))
  else match origins.find? (!isOrigin ·) with
    | some bad => .error (.invalidOrigin bad)
    | none => .ok (.exact origins)

end Origins

end Portcullis.Cors
