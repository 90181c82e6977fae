import Portcullis.Text.Basic
import Portcullis.Glob

/-!
# Path patterns

A path pattern is written as `/`-separated segments. A segment `**` stands for any number of path segments; elsewhere
`*` stands for any text within a segment and `?` for one character. Of several patterns that match a path,
`mostSpecific` picks the one that says most about it, the first registered of those that say equally much.

A pattern is matched as it stands, and not compiled first. So there is no pattern that is refused because of its size,
as there is where patterns are compiled to expressions of limited size.

* `PathPattern.parse`: reading a pattern, with the two reasons to refuse it.
* `PathPattern.covers`: the paths a pattern stands for; a query is not part of the path.
* `PathPattern.mostSpecific`: the choice among matching patterns.
-/

namespace Portcullis

namespace PathPattern

/-- A segment of a pattern. -/
inductive Segment
  /-- `**`: any number of path segments. -/
  | anyDepth
  /-- One path segment, by its wildcard steps. -/
  | single (steps : List Glob.Step)
  deriving DecidableEq, Repr

/-- Why a text is no path pattern. -/
inductive Fault
  /-- It does not start with a slash. -/
  | notAbsolute
  /-- A segment holds `**` beside other text. -/
  | mixedDoubleStar
  deriving DecidableEq, Repr

/-- What a fault says. -/
def Fault.message : Fault → String
  | .notAbsolute => "pattern must start with '/'"
  | .mixedDoubleStar => "'**' must occupy a whole path segment"

end PathPattern

/-- A path pattern: its text and its segments. -/
structure PathPattern where
  text : String
  segments : List PathPattern.Segment
  deriving DecidableEq, Repr

namespace PathPattern

/-- The step a character of a segment stands for. -/
def stepOf : Char → Glob.Step
  | '*' => .run
  | '?' => .one
  | c => .exactly c

/-- Reads one segment. -/
def readSegment (cs : List Char) : Except Fault Segment :=
  if cs = ['*', '*'] then .ok .anyDepth
  else if Text.holds ['*', '*'] cs then .error .mixedDoubleStar
  else .ok (.single (cs.map stepOf))

/-- Reads a pattern. -/
def parse (text : String) : Except Fault PathPattern :=
  match text.toList with
  | '/' :: rest => (fun segments => ⟨text, segments⟩) <$> (rest.splitOn '/').mapM readSegment
  | _ => .error .notAbsolute

/-- The steps of a segment, with the slash that opens it. -/
def Segment.steps : Segment → List Glob.Step
  | .anyDepth => [.deep]
  | .single steps => .exactly '/' :: steps

/-- The steps of the whole pattern. -/
def steps (p : PathPattern) : List Glob.Step :=
  p.segments.flatMap Segment.steps

/-- The pattern stands for the path. What follows the first `?` is a query, and not looked at. -/
def covers (p : PathPattern) (path : String) : Bool :=
  Glob.fits (· == ·) p.steps (Text.upTo '?' path.toList)

/-! ## Specificity -/

/-- What makes one pattern more specific than another. -/
structure Specificity where
  /-- How many segments are `**`. -/
  doubles : Nat
  /-- How many single wildcards there are. -/
  singles : Nat
  /-- How many bytes the text has. -/
  bytes : Nat
  deriving DecidableEq, Repr

/-- Is the step a single wildcard? -/
def isWildcard : Glob.Step → Bool
  | .one | .run => true
  | _ => false

/-- How specific a pattern is. -/
def specificity (p : PathPattern) : Specificity where
  doubles := p.segments.count .anyDepth
  singles := p.steps.countP isWildcard
  bytes := p.text.utf8ByteSize

/-- `a` says at least as much as `b`: fewer `**`, then fewer single wildcards, then a longer text. -/
def Specificity.atLeast (a b : Specificity) : Bool :=
  a.doubles < b.doubles || a.doubles == b.doubles &&
    (a.singles < b.singles || a.singles == b.singles && b.bytes ≤ a.bytes)

/-- The better of two candidates; the earlier one where they are equally specific. -/
def better {α : Type} (current : Option (PathPattern × α)) (next : PathPattern × α) : PathPattern × α :=
  match current with
  | some held => if held.1.specificity.atLeast next.1.specificity then held else next
  | none => next

/-- The entry whose pattern is most specific among those that cover the path. -/
def mostSpecific {α : Type} (entries : List (PathPattern × α)) (path : String) : Option (PathPattern × α) :=
  entries.foldl (fun best entry => if entry.1.covers path then some (better best entry) else best) none

end PathPattern

end Portcullis
