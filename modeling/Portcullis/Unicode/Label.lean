import Portcullis.Unicode.LabelTable
import Portcullis.Unicode.Normalize

/-!
# Labels of host names

The restrictions on a label beyond those on its characters: it does not start with a mark, joiners stand only where they
change how letters are written, and left-to-right and right-to-left text do not mix.
-/

namespace Portcullis.Unicode

/-- Combining marks. -/
def marks : Table := Table.ofRanges markRows

/-- Joining types. -/
def joining : Table := Table.ofRanges joiningRows

/-- Bidirectional classes. -/
def bidi : Table := Table.ofRanges bidiRows

/-- Is the character a combining mark? -/
def isMark (c : Char) : Bool :=
  marks.covers c.toNat

/-! ## Joiners -/

/-- How a letter joins its neighbours. -/
inductive Joining
  | dual | right | left | transparent | causing | none
  deriving DecidableEq

/-- The joining type of a character. -/
def joiningOf (c : Char) : Joining :=
  match joining.value? c.toNat with
  | some 1 => .dual
  | some 2 => .right
  | some 3 => .left
  | some 4 => .transparent
  | some 5 => .causing
  | _ => .none

/-- The joining type of the first character that is not transparent. -/
def nextJoining (cs : List Char) : Joining :=
  ((cs.dropWhile (joiningOf · = .transparent)).head?.map joiningOf).getD .none

/-- May a joiner stand between these? Both kinds may follow a virama; the non-joiner may also stand between two letters
that would join. `before` is the text before it, latest character first. -/
def joinerAllowed (joiner : Char) (before after : List Char) : Bool :=
  (before.head?.any (combiningClass · = 9)) ||
    (joiner = '\u200C' && (nextJoining before = .left || nextJoining before = .dual) &&
      (nextJoining after = .right || nextJoining after = .dual))

/-- Do all joiners of a label stand where they may? -/
def joinersAllowed : List Char → List Char → Bool
  | _, [] => true
  | before, c :: cs =>
    (if c = '\u200C' ∨ c = '\u200D' then joinerAllowed c before cs else true) && joinersAllowed (c :: before) cs

/-! ## Direction -/

/-- The bidirectional class of a character. -/
inductive Bidi
  | l | r | al | an | en | es | cs | et | on | bn | nsm | other
  deriving DecidableEq

/-- The bidirectional class of a character. -/
def bidiOf (c : Char) : Bidi :=
  match bidi.value? c.toNat with
  | none => .l
  | some 1 => .r
  | some 2 => .al
  | some 3 => .an
  | some 4 => .en
  | some 5 => .es
  | some 6 => .cs
  | some 7 => .et
  | some 8 => .on
  | some 9 => .bn
  | some 10 => .nsm
  | some _ => .other

/-- Does the text hold a character that is written from right to left? -/
def hasRightToLeft (cs : List Char) : Bool :=
  cs.any fun c => [Bidi.r, .al, .an].contains (bidiOf c)

/-- The class of the last character that is no mark. -/
def lastBidi (cs : List Char) : Option Bidi :=
  (cs.map bidiOf).reverse.find? (· != .nsm)

/-- The rule for labels of a host name that holds right-to-left text. -/
def directionAllowed (cs : List Char) : Bool :=
  match cs.head?.map bidiOf with
  | none => true
  | some .l =>
    (cs.all fun c => [Bidi.l, .en, .es, .cs, .et, .on, .bn, .nsm].contains (bidiOf c)) &&
      (lastBidi cs).any fun b => b = .l || b = .en
  | some b =>
    (b = .r || b = .al) &&
      (cs.all fun c => [Bidi.r, .al, .an, .en, .es, .cs, .et, .on, .bn, .nsm].contains (bidiOf c)) &&
      ((lastBidi cs).any fun b => [Bidi.r, .al, .en, .an].contains b) &&
      !((cs.any (bidiOf · = .en)) && cs.any (bidiOf · = .an))

end Portcullis.Unicode
