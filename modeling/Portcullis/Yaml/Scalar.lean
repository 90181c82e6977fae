import Portcullis.Codec.Percent
import Portcullis.Yaml.Text

/-!
# Scalars

Scalars within a line may go on over several: a single line end between two words counts as a blank, and of several the
first is dropped (`Gap.joined`). Block scalars keep their lines, or join them in the same way.

* `scanPlain`, `scanQuoted`, `scanBlock`: each takes one character at a time off the text.
-/

namespace Portcullis.Yaml

/-- How a scalar is written. -/
inductive Style
  | plain
  | quoted
  | literal
  | folded
  deriving DecidableEq, Repr

/-! ## Gaps between words -/

/-- What has been passed over since the last word. -/
inductive Gap
  /-- Blanks, the last one first. -/
  | blanks (passed : List Char)
  /-- The first line end, if it counts, and those after it. -/
  | breaks (first : Option Char) (more : List Char)

namespace Gap

/-- No gap. -/
def none : Gap :=
  .blanks []

/-- One more blank. Blanks at the start or the end of a line are dropped. -/
def blank (c : Char) : Gap → Gap
  | .blanks passed => .blanks (c :: passed)
  | gap => gap

/-- One more line end. -/
def newline (c : Char) : Gap → Gap
  | .blanks _ => .breaks (some c) []
  | .breaks first more => .breaks first (more ++ [c])

/-- Does the gap hold a line end? -/
def isBroken : Gap → Bool
  | .blanks _ => false
  | .breaks .. => true

/-- Is there no gap? -/
def isEmpty : Gap → Bool
  | .blanks [] => true
  | _ => false

/-- What stands in a scalar for the gap. -/
def joined : Gap → List Char
  | .blanks passed => passed.reverse
  | .breaks (some '\n') [] => [' ']
  | .breaks (some '\n') more => more
  | .breaks first more => first.toList ++ more

end Gap

/-! ## Plain scalars -/

/-- A plain scalar, and whether a line end follows it. -/
structure Plain where
  text : String
  broken : Bool

/-- A plain scalar ends before this character. -/
def plainEnds (flow : Bool) (indent : Int) (p : Place) (gap : Gap) (c : Char) (cs : List Char) : Bool :=
  (gap.isBroken && (!flow && p.column < indent || p.atMarker (c :: cs))) || (!gap.isEmpty && c == '#') ||
    (c == ':' && endsWord cs) || (flow && [',', '[', ']', '\x7b', '\x7d'].contains c)

/-- A colon between an item of a flow collection and an indicator. -/
def isStrayColon (c : Char) (cs : List Char) : Bool :=
  c == ':' && cs.head?.any [',', '?', '[', ']', '\x7b', '\x7d'].contains

/-- Reads a plain scalar; `indent` is the least column of its further lines, and `taken` is in reverse. -/
def scanPlain (flow : Bool) (indent : Int) (p : Place) (gap : Gap) (taken : List Char) :
    List Char → Except Fault (Scanned Plain)
  | [] => .ok ⟨⟨String.ofList taken.reverse, gap.isBroken⟩, p, []⟩
  | c :: cs =>
    if isGap c then
      if gap.isBroken && c == '\t' && p.column < indent then .error .indentation
      else scanPlain flow indent (p.step c) (gap.blank c) taken cs
    else if isBreak c then scanPlain flow indent (p.step c) (gap.newline c) taken cs
    else if plainEnds flow indent p gap c cs then
      .ok ⟨⟨String.ofList taken.reverse, gap.isBroken⟩, p, c :: cs⟩
    else if flow && isStrayColon c cs then .error .scalar
    else scanPlain flow indent (p.step c) .none (c :: (gap.joined.reverse ++ taken)) cs

/-! ## Quoted scalars -/

/-- What the next character of a quoted scalar is part of. -/
inductive QuotedPart
  | text
  /-- The character after a backslash. -/
  | escape
  /-- A character's number, of which some digits are still to come. -/
  | code (left value : Nat)
  /-- The character after a single quote. -/
  | afterQuote

/-- The characters that have escapes of one letter. -/
def escapes : List (Char × Char) :=
  [('0', '\x00'), ('a', '\x07'), ('b', '\x08'), ('t', '\t'), ('\t', '\t'), ('n', '\n'), ('v', '\x0B'), ('f', '\x0C'),
    ('r', '\r'), ('e', '\x1B'), (' ', ' '), ('"', '"'), ('/', '/'), ('\\', '\\'), ('N', '\u0085'), ('_', '\u00A0'),
    ('L', '\u2028'), ('P', '\u2029')]

/-- How many digits follow an escape that gives a character by its number. -/
def codeLength? : Char → Option Nat
  | 'x' => some 2
  | 'u' => some 4
  | 'U' => some 8
  | _ => none

/-- Reads a quoted scalar after its opening quote. -/
def scanQuoted (single : Bool) (part : QuotedPart) (p : Place) (gap : Gap) (taken : List Char) :
    List Char → Except Fault (Scanned String)
  | [] =>
    match part with
    | .afterQuote => .ok ⟨String.ofList taken.reverse, p, []⟩
    | _ => .error .scalar
  | c :: cs =>
    match part with
    | .afterQuote =>
      if c = '\'' then scanQuoted single .text (p.step c) .none (c :: taken) cs
      else .ok ⟨String.ofList taken.reverse, p, c :: cs⟩
    | .code left value =>
      match Percent.hexValue? c with
      | none => .error .scalar
      | some d =>
        let value := value * 16 + d
        if 1 < left then scanQuoted single (.code (left - 1) value) (p.step c) gap taken cs
        else if value.isValidChar then scanQuoted single .text (p.step c) gap (Char.ofNat value :: taken) cs
        else .error .scalar
    | .escape =>
      if isBreak c then scanQuoted single .text (p.step c) (.breaks none []) taken cs
      else
        match escapes.lookup c, codeLength? c with
        | some x, _ => scanQuoted single .text (p.step c) gap (x :: taken) cs
        | none, some n => scanQuoted single (.code n 0) (p.step c) gap taken cs
        | none, none => .error .scalar
    | .text =>
      if isGap c then scanQuoted single .text (p.step c) (gap.blank c) taken cs
      else if isBreak c then scanQuoted single .text (p.step c) (gap.newline c) taken cs
      else if p.atMarker (c :: cs) then .error .scalar
      else
        let taken := gap.joined.reverse ++ taken
        if single && c == '\'' then scanQuoted single .afterQuote (p.step c) .none taken cs
        else if !single && c == '"' then .ok ⟨String.ofList taken.reverse, p.step c, cs⟩
        else if !single && c == '\\' then scanQuoted single .escape (p.step c) .none taken cs
        else scanQuoted single .text (p.step c) .none (c :: taken) cs

/-! ## Block scalars -/

/-- What becomes of the line ends at the end of a block scalar. -/
inductive Chomp
  | strip
  /-- One is kept. -/
  | clip
  | keep
  deriving DecidableEq, Repr

/-- What stands behind the indicator of a block scalar. -/
structure BlockHeader where
  chomp : Chomp := .clip
  /-- By how much the lines are indented, if that is said. -/
  indent : Option Nat := none

/-- The chomping that a character asks for. -/
def chomp? : Char → Option Chomp
  | '-' => some .strip
  | '+' => some .keep
  | _ => none

/-- Takes up one character of a header, if it is one. -/
def BlockHeader.take (h : BlockHeader) (c : Char) : Option (Except Fault BlockHeader) :=
  match chomp? c with
  | some chomp => if h.chomp = .clip then some (.ok { h with chomp := chomp }) else none
  | none =>
    if c.isDigit && h.indent.isNone then
      some (if c = '0' then .error .scalar else .ok { h with indent := some (c.toNat - 48) })
    else none

/-- Reads a header: at most one character of each kind, in either order. -/
def scanHeader (h : BlockHeader) (p : Place) : List Char → Except Fault (Scanned BlockHeader)
  | [] => .ok ⟨h, p, []⟩
  | c :: cs =>
    match h.take c with
    | none => .ok ⟨h, p, c :: cs⟩
    | some (.error fault) => .error fault
    | some (.ok h) => scanHeader h (p.step c) cs

/-- A block scalar in the making. -/
structure Block where
  /-- The column of the lines, once it is known. -/
  indent : Option Nat
  /-- The last column that blanks have led to while it was not known. -/
  widest : Nat := 0
  /-- The end of the last line that was not empty. -/
  ending : Option Char := none
  /-- The ends of the empty lines after it. -/
  empties : List Char := []
  /-- Did the last line begin with a blank? -/
  indented : Bool := false
  /-- What has been read, in reverse. -/
  taken : List Char := []

namespace Block

/-- The column of the lines, given the indentation of what the scalar is part of. -/
def column (b : Block) (outer : Int) : Nat :=
  b.indent.getD (max (max b.widest (outer + 1).toNat) 1)

/-- What stands between the last line and the next, which begins with `c`. -/
def between (b : Block) (literal : Bool) (c : Char) : List Char :=
  if !literal && b.ending == some '\n' && !b.indented && !isGap c then
    if b.empties.isEmpty then [' '] else b.empties
  else b.ending.toList ++ b.empties

/-- Begins a line with the character `c`. -/
def startLine (b : Block) (literal : Bool) (column : Nat) (c : Char) : Block where
  indent := some column
  indented := isGap c
  taken := c :: ((b.between literal c).reverse ++ b.taken)

/-- The text of the scalar. -/
def text (b : Block) (chomp : Chomp) : String :=
  let tail := match chomp with
    | .strip => []
    | .clip => b.ending.toList
    | .keep => b.ending.toList ++ b.empties
  String.ofList (b.taken.reverse ++ tail)

end Block

/-- Reads the lines of a block scalar. -/
def scanLines (literal : Bool) (outer : Int) (inLine : Bool) (b : Block) (p : Place) :
    List Char → Except Fault (Scanned Block)
  | [] => .ok ⟨b, p, []⟩
  | c :: cs =>
    if inLine then
      if isBreak c then scanLines literal outer false { b with ending := some c } (p.step c) cs
      else scanLines literal outer true { b with taken := c :: b.taken } (p.step c) cs
    else
      let within := b.indent.all (p.column < ·)
      if within && c == ' ' then scanLines literal outer false b (p.step c) cs
      else if within && c == '\t' then .error .indentation
      else
        let b := { b with widest := max b.widest p.column }
        if isBreak c then scanLines literal outer false { b with empties := b.empties ++ [c] } (p.step c) cs
        else if p.column = b.column outer then
          scanLines literal outer true (b.startLine literal p.column c) (p.step c) cs
        else .ok ⟨b, p, c :: cs⟩

/-- Reads a block scalar after its indicator; `outer` is the indentation of what it is part of. -/
def scanBlock (literal : Bool) (outer : Int) (p : Place) (cs : List Char) : Except Fault (Scanned String) := do
  let ⟨header, p, cs⟩ ← scanHeader {} p cs
  let ⟨_, p, cs⟩ ← restOfLine p cs .scalar
  let indent := header.indent.map fun n => (max outer 0).toNat + n
  let ⟨b, p, cs⟩ ← scanLines literal outer false { indent := indent } p cs
  return ⟨b.text header.chomp, p, cs⟩

end Portcullis.Yaml
