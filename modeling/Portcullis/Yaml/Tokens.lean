import Portcullis.Yaml.Token

/-!
# The tokens of a text

Indentation and simple keys turn the text into tokens. A table in block style begins at the first key of a column that
lies deeper than what surrounds it, and ends where a line goes back to a lesser column. Whether a word is a key shows
only at the colon after it: what may turn out to be one is remembered as `PossibleKey`, and the tokens that make it one
are put in front of it afterwards.

* `tokens`: all tokens of a text.
-/

namespace Portcullis.Yaml

/-- A word that may turn out to be a key. -/
structure PossibleKey where
  /-- Nothing but a key may stand there. -/
  required : Bool
  /-- How many tokens are in front of it. -/
  position : Nat
  place : Place
  deriving DecidableEq, Repr

/-- A key ends on the line on which it begins, and within 1024 characters. -/
def PossibleKey.isPast (k : PossibleKey) (p : Place) : Bool :=
  k.place.line < p.line || k.place.index + 1024 < p.index

/-- A reader of tokens on its way through the text. -/
structure Reading where
  rest : List Char
  place : Place := {}
  /-- The column of the block collection at hand. -/
  indent : Int := -1
  /-- The columns of the block collections around it. -/
  outer : List Int := []
  /-- What may turn out to be a key: at hand, and in each collection around the flow collection at hand. -/
  keys : List (Option PossibleKey) := [none]
  /-- May a key begin here? -/
  keyAllowed : Bool := true
  tokens : Array Token := #[]

namespace Reading

/-- Is this within a flow collection? -/
def inFlow (r : Reading) : Bool :=
  1 < r.keys.length

/-- Adds a token. -/
def push (r : Reading) (t : Token) : Reading :=
  { r with tokens := r.tokens.push t }

/-- Passes over characters of the line at hand. -/
def skip (r : Reading) (n : Nat) : Reading :=
  { r with rest := r.rest.drop n, place := r.place.advance n }

/-- Goes on after something that has been read. -/
def after {α : Type} (r : Reading) (s : Scanned α) : Reading :=
  { r with rest := s.rest, place := s.place }

/-! ## Keys -/

/-- What was remembered can be no key any more. -/
def forget : Option PossibleKey → Except Fault (Option PossibleKey)
  | some k => if k.required then .error .key else .ok none
  | none => .ok none

/-- Forgets what can be no key any more because of where the reader stands. -/
def forgetPast (r : Reading) : Except Fault Reading := do
  return { r with keys := ← r.keys.mapM fun k => if k.any (·.isPast r.place) then forget k else .ok k }

/-- Forgets what might have been a key at hand. -/
def forgetKey (r : Reading) : Except Fault Reading :=
  match r.keys with
  | [] => .ok r
  | k :: ks => do return { r with keys := (← forget k) :: ks }

/-- Remembers that a key may begin here, if one may. -/
def rememberKey (r : Reading) : Except Fault Reading := do
  if !r.keyAllowed then return r
  let r ← r.forgetKey
  let k : PossibleKey :=
    { required := !r.inFlow && r.indent == r.place.column, position := r.tokens.size, place := r.place }
  return { r with keys := some k :: r.keys.drop 1 }

/-! ## Indentation -/

/-- Opens a block collection at a column that lies deeper than the one at hand. -/
def openAt (r : Reading) (column position : Nat) (t : Token) : Reading :=
  if r.inFlow || column ≤ r.indent then r
  else { r with
    indent := column
    outer := r.indent :: r.outer
    tokens := r.tokens.insertIdxIfInBounds position t }

/-- How many block collections end at a column, and the columns of those that go on. -/
def closing (column indent : Int) : List Int → Nat × Int × List Int
  | [] => (0, indent, [])
  | next :: outer =>
    if indent ≤ column then (0, indent, next :: outer)
    else
      let (n, rest) := closing column next outer
      (n + 1, rest)

/-- Closes the block collections that end at a column. -/
def close (r : Reading) (column : Int) : Reading :=
  if r.inFlow then r
  else
    let (n, indent, outer) := closing column r.indent r.outer
    { r with indent := indent, outer := outer, tokens := r.tokens ++ Array.replicate n .blockEnd }

/-! ## What separates tokens -/

/-- Passes over blanks, comments and line ends. Tabs count as blanks where no key may begin. -/
def skipSpace (flow keyAllowed comment : Bool) (p : Place) : List Char → Bool × Scanned Unit
  | [] => (keyAllowed, ⟨(), p, []⟩)
  | c :: cs =>
    if isBreak c then skipSpace flow (keyAllowed || !flow) false (p.step c) cs
    else if comment || c == ' ' || c == '#' || (c == '\t' && (flow || !keyAllowed)) ||
        (c == byteOrderMark && p.column == 0) then
      skipSpace flow keyAllowed (comment || c == '#') (p.step c) cs
    else (keyAllowed, ⟨(), p, c :: cs⟩)

/-- Goes to the next token. -/
def toNext (r : Reading) : Except Fault Reading := do
  let (keyAllowed, s) := skipSpace r.inFlow r.keyAllowed false r.place r.rest
  let r ← { r.after s with keyAllowed := keyAllowed }.forgetPast
  return r.close r.place.column

/-! ## Tokens by kind -/

/-- The end of the text. -/
def finish (r : Reading) : Except Fault (Array Token) := do
  return (← (r.close (-1)).forgetKey).tokens

/-- A directive. -/
def directive (r : Reading) : Except Fault Reading := do
  let r ← (r.close (-1)).forgetKey
  let r := r.skip 1
  let s ← scanDirective r.place r.rest
  return { (r.after s).push s.value with keyAllowed := false }

/-- A mark between documents. -/
def marker (r : Reading) (t : Token) : Except Fault Reading := do
  let r ← (r.close (-1)).forgetKey
  return { (r.skip 3).push t with keyAllowed := false }

/-- The start of a flow collection. -/
def flowStart (r : Reading) (t : Token) : Except Fault Reading := do
  let r ← r.rememberKey
  return { (r.skip 1).push t with keys := none :: r.keys, keyAllowed := true }

/-- The end of a flow collection. -/
def flowEnd (r : Reading) (t : Token) : Except Fault Reading := do
  let r ← r.forgetKey
  return { (r.skip 1).push t with keys := if r.inFlow then r.keys.drop 1 else r.keys, keyAllowed := false }

/-- A comma. -/
def comma (r : Reading) : Except Fault Reading := do
  let r ← r.forgetKey
  return { (r.skip 1).push .comma with keyAllowed := true }

/-- A place where a block collection may go on or begin; elsewhere its indicator is a fault. -/
def blockPlace (r : Reading) (t : Token) : Except Fault Reading :=
  if r.inFlow then .ok r
  else if !r.keyAllowed then .error .key
  else .ok (r.openAt r.place.column r.tokens.size t)

/-- The dash of an item. -/
def item (r : Reading) : Except Fault Reading := do
  let r ← (← r.blockPlace .blockList).forgetKey
  return { (r.skip 1).push .item with keyAllowed := true }

/-- The indicator of a key. -/
def explicitKey (r : Reading) : Except Fault Reading := do
  let r ← (← r.blockPlace .blockTable).forgetKey
  return { (r.skip 1).push .key with keyAllowed := !r.inFlow }

/-- The colon before a value: what was remembered is a key now, or the key has been made explicit. -/
def value (r : Reading) : Except Fault Reading := do
  match r.keys with
  | some k :: ks =>
    let r := { r with tokens := r.tokens.insertIdxIfInBounds k.position .key, keys := none :: ks }
    let r := r.openAt k.place.column k.position .blockTable
    return { (r.skip 1).push .value with keyAllowed := false }
  | _ =>
    let r ← r.blockPlace .blockTable
    return { (r.skip 1).push .value with keyAllowed := !r.inFlow }

/-- A word that may be a key. -/
def word (r : Reading) (indicator : Nat) (scan : Place → List Char → Except Fault (Scanned Token)) :
    Except Fault Reading := do
  let r ← r.rememberKey
  let r := r.skip indicator
  let s ← scan r.place r.rest
  return { (r.after s).push s.value with keyAllowed := false }

/-- A quoted scalar. -/
def quoted (r : Reading) (single : Bool) : Except Fault Reading :=
  r.word 1 fun p cs => do
    let s ← scanQuoted single .text p .none [] cs
    return ⟨.scalar .quoted s.value, s.place, s.rest⟩

/-- A plain scalar. -/
def plain (r : Reading) : Except Fault Reading := do
  let r ← r.rememberKey
  let s ← scanPlain r.inFlow (r.indent + 1) r.place .none [] r.rest
  return { (r.after s).push (.scalar .plain s.value.text) with keyAllowed := s.value.broken }

/-- A block scalar. -/
def block (r : Reading) (literal : Bool) : Except Fault Reading := do
  let r ← r.forgetKey
  let r := r.skip 1
  let s ← scanBlock literal r.indent r.place r.rest
  return { (r.after s).push (.scalar (if literal then .literal else .folded) s.value) with keyAllowed := true }

/-- Does a plain scalar begin here? -/
def startsPlain (flow : Bool) (c : Char) (cs : List Char) : Bool :=
  if c == '-' then !cs.head?.any isGap
  else if c == '?' || c == ':' then !flow && !endsWord cs
  else !(isGap c || isBreak c || ",[]\x7b\x7d#&*!|>'\"%@".toList.contains c || c == '\x60')

/-- Reads the token that begins with `c`. -/
def token (r : Reading) (c : Char) (cs : List Char) : Except Fault Reading :=
  if r.place.column = 0 && c == '%' then r.directive
  else if r.place.atMarker (c :: cs) then r.marker (if c = '-' then .documentStart else .documentEnd)
  else if c == '-' && endsWord cs then r.item
  else if c == '?' && (r.inFlow || endsWord cs) then r.explicitKey
  else if c == ':' && (r.inFlow || endsWord cs) then r.value
  else if startsPlain r.inFlow c cs then r.plain
  else match c with
    | '[' => r.flowStart .flowList
    | '\x7b' => r.flowStart .flowTable
    | ']' => r.flowEnd .flowListEnd
    | '\x7d' => r.flowEnd .flowTableEnd
    | ',' => r.comma
    | '*' => r.word 1 fun p cs => do
      let s ← scanName p cs
      return ⟨.reference s.value, s.place, s.rest⟩
    | '&' => r.word 1 fun p cs => do
      let s ← scanName p cs
      return ⟨.anchor s.value, s.place, s.rest⟩
    | '!' => r.word 1 (scanTag r.inFlow)
    | '\'' => r.quoted true
    | '"' => r.quoted false
    | '|' => if r.inFlow then .error .token else r.block true
    | '>' => if r.inFlow then .error .token else r.block false
    | _ => .error .token

/-- Reads all tokens. Every token takes at least one character off the text. -/
def all (r : Reading) : Except Fault (Array Token) :=
  match r.toNext with
  | .error fault => .error fault
  | .ok r' =>
    match r'.rest with
    | [] => r'.finish
    | c :: cs =>
      match r'.token c cs with
      | .error fault => .error fault
      | .ok next => if next.rest.length < r.rest.length then all next else .error .token
termination_by r.rest.length

end Reading

/-- The tokens of a text. -/
def tokens (s : String) : Except Fault (List Token) := do
  return (← Reading.all { rest := ← prepare s }).toList

end Portcullis.Yaml
