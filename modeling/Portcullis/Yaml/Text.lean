/-!
# The text of YAML

Which characters a text may hold, where its lines end, and where in it a reader stands.

* `prepare`: the text as all further reading sees it, with one kind of line end where the format knows several.
-/

namespace Portcullis.Yaml

/-- Why a text is not understood. -/
inductive Fault
  /-- It holds a character that no text may hold. -/
  | character
  /-- Nothing begins with the character at hand. -/
  | token
  /-- There is a key where none may be, or one without its value. -/
  | key
  /-- A tab stands where blanks are called for. -/
  | indentation
  /-- A scalar is not closed, or holds an escape that says nothing. -/
  | scalar
  | anchor
  | tag
  | directive
  /-- The tokens do not fit together. -/
  | arrangement
  /-- A reference leads to no anchor. -/
  | reference
  /-- There is more than one document. -/
  | documents
  deriving DecidableEq, Repr

/-! ## Characters -/

/-- The characters that a text may hold. -/
def isAllowed (c : Char) : Bool :=
  let n := c.toNat
  n == 9 || n == 10 || n == 13 || (0x20 ≤ n && n ≤ 0x7E) || n == 0x85 || (0xA0 ≤ n && n ≤ 0xFFFD) || 0x10000 ≤ n

/-- A blank or a tab. -/
def isGap (c : Char) : Bool :=
  c == ' ' || c == '\t'

/-- The end of a line, in a text that has been prepared. -/
def isBreak (c : Char) : Bool :=
  c == '\n' || c == '\u2028' || c == '\u2029'

/-- The characters of names. -/
def isWord (c : Char) : Bool :=
  c.isAlphanum || c == '-' || c == '_'

/-- The mark that a text may begin with. -/
def byteOrderMark : Char :=
  '\uFEFF'

/-- Line ends of all kinds as one, but for the two that stay in scalars as they are. -/
def unifyBreaks : List Char → List Char
  | [] => []
  | '\r' :: '\n' :: cs => '\n' :: unifyBreaks cs
  | c :: cs => (if c = '\r' ∨ c = '\u0085' then '\n' else c) :: unifyBreaks cs

/-- The text as it is read, if all its characters are allowed. -/
def prepare (s : String) : Except Fault (List Char) :=
  let cs := match s.toList with
    | c :: cs => if c = byteOrderMark then cs else c :: cs
    | [] => []
  if cs.all isAllowed then .ok (unifyBreaks cs) else .error .character

/-- Nothing follows, or what separates words. -/
def endsWord : List Char → Bool
  | [] => true
  | c :: _ => isGap c || isBreak c

/-! ## Places -/

/-- Where a reader stands: line, column and number of characters before it, from zero. -/
structure Place where
  line : Nat := 0
  column : Nat := 0
  index : Nat := 0
  deriving DecidableEq, Repr

namespace Place

/-- The place after a character. -/
def step (p : Place) (c : Char) : Place :=
  if isBreak c then ⟨p.line + 1, 0, p.index + 1⟩ else ⟨p.line, p.column + 1, p.index + 1⟩

/-- The place after some characters of the same line. -/
def advance (p : Place) (n : Nat) : Place :=
  ⟨p.line, p.column + n, p.index + n⟩

/-- A mark that begins or ends a document stands here. -/
def atMarker (p : Place) (cs : List Char) : Bool :=
  p.column == 0 && (cs.take 3 == ['-', '-', '-'] || cs.take 3 == ['.', '.', '.']) && endsWord (cs.drop 3)

end Place

/-- What has been read, and where reading goes on. -/
structure Scanned (α : Type) where
  value : α
  place : Place
  rest : List Char

/-- Passes over the rest of a line that holds nothing but a comment. -/
def restOfLine (p : Place) (cs : List Char) (fault : Fault) : Except Fault (Scanned Unit) :=
  let (gap, cs) := cs.span isGap
  let comment := if cs.head? = some '#' then cs.takeWhile (!isBreak ·) else []
  let p := p.advance (gap.length + comment.length)
  match cs.drop comment.length with
  | [] => .ok ⟨(), p, []⟩
  | c :: cs => if isBreak c then .ok ⟨(), p.step c, cs⟩ else .error fault

end Portcullis.Yaml
