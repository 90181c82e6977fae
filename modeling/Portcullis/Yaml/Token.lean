import Portcullis.Codec.Utf8
import Portcullis.Text.Basic
import Portcullis.Yaml.Scalar

/-!
# Tokens

The words of a YAML text, and how those are read that begin with an indicator of their own: anchors, references, tags
and directives.
-/

namespace Portcullis.Yaml

/-- A word of the text. -/
inductive Token
  /-- The version that a document says it is written in. -/
  | version (major minor : Nat)
  /-- What a handle at the start of tags stands for. -/
  | handle (name base : String)
  | documentStart
  | documentEnd
  | blockList
  | blockTable
  | blockEnd
  | flowList
  | flowListEnd
  | flowTable
  | flowTableEnd
  /-- The dash before an item. -/
  | item
  /-- The comma between items. -/
  | comma
  | key
  | value
  /-- Another node stands here. -/
  | reference (name : String)
  | anchor (name : String)
  | tag (handle suffix : String)
  | scalar (style : Style) (text : String)
  deriving DecidableEq, Repr

/-! ## Anchors and references -/

/-- The characters that may follow the name of an anchor without a blank between. -/
def endsName : List Char → Bool
  | [] => true
  | c :: _ => isGap c || isBreak c || ['?', ':', ',', ']', '\x7d', '%', '@', '\x60'].contains c

/-- Reads the name of an anchor. -/
def scanName (p : Place) (cs : List Char) : Except Fault (Scanned String) :=
  let (name, rest) := cs.span isWord
  if name.isEmpty || !endsName rest then .error .anchor
  else .ok ⟨String.ofList name, p.advance name.length, rest⟩

/-! ## Tags -/

/-- The characters of a tag, but for those that are escaped. Flow indicators are among them where the tag stands between
brackets of its own. -/
def isTagChar (bracketed : Bool) (c : Char) : Bool :=
  isWord c || ";/?:@&=+$.%!~*'()".toList.contains c || (bracketed && [',', '[', ']'].contains c)

/-- Every escape has its two digits. -/
def wholeEscapes : List Char → Bool
  | [] => true
  | c :: cs =>
    (c != '%' || (cs.take 2).length = 2 && (cs.take 2).all fun d => (Percent.hexValue? d).isSome) && wholeEscapes cs

/-- Reads the characters of a tag. -/
def scanTagText (bracketed : Bool) (p : Place) (cs : List Char) : Except Fault (Scanned String) :=
  let (text, rest) := cs.span (isTagChar bracketed)
  match if wholeEscapes text then Utf8.decode? (Percent.decode text) else none with
  | some text' => .ok ⟨String.ofList text', p.advance text.length, rest⟩
  | none => .error .tag

/-- The same, with at least one character. -/
def scanTagText1 (bracketed : Bool) (p : Place) (cs : List Char) : Except Fault (Scanned String) := do
  let s ← scanTagText bracketed p cs
  if s.value.isEmpty then throw .tag
  return s

/-- The part of a tag up to an exclamation mark after its first, or as far as letters go. -/
def spanHandle (cs : List Char) : List Char × List Char :=
  let (name, rest) := cs.span isWord
  match rest with
  | '!' :: rest => ('!' :: name ++ ['!'], rest)
  | rest => ('!' :: name, rest)

/-- Is this a handle, and not the start of a tag without one? -/
def isHandle (handle : List Char) : Bool :=
  1 < handle.length && handle.getLast? = some '!'

/-- Reads a tag after its first exclamation mark: its handle and what follows. A tag without a handle has the handle
that is one mark, and the mark alone is a tag without any. -/
def scanTagParts (p : Place) (cs : List Char) : Except Fault (Scanned (String × String)) :=
  match cs with
  | '<' :: cs => do
    let ⟨text, p, cs⟩ ← scanTagText1 true (p.advance 1) cs
    match cs with
    | '>' :: cs => return ⟨("", text), p.advance 1, cs⟩
    | _ => throw .tag
  | cs => do
    let (handle, rest) := spanHandle cs
    let p := p.advance (handle.length - 1)
    if isHandle handle then
      let ⟨text, p, cs⟩ ← scanTagText1 false p rest
      return ⟨(String.ofList handle, text), p, cs⟩
    else
      let ⟨text, p, cs⟩ ← scanTagText false p rest
      let suffix := String.ofList (handle.drop 1) ++ text
      return ⟨if suffix.isEmpty then ("", "!") else ("!", suffix), p, cs⟩

/-- Reads a tag. -/
def scanTag (flow : Bool) (p : Place) (cs : List Char) : Except Fault (Scanned Token) := do
  let ⟨(handle, suffix), p, cs⟩ ← scanTagParts p cs
  if endsWord cs || flow && cs.head? = some ',' then return ⟨.tag handle suffix, p, cs⟩
  else throw .tag

/-! ## Directives -/

/-- Reads a number of a version. -/
def scanVersionNumber (p : Place) (cs : List Char) : Except Fault (Scanned Nat) :=
  let (digits, rest) := cs.span Char.isDigit
  match Text.decimalValue? digits with
  | some n => if digits.length ≤ 9 then .ok ⟨n, p.advance digits.length, rest⟩ else .error .directive
  | none => .error .directive

/-- Passes over blanks. -/
def skipGap (p : Place) (cs : List Char) : Place × List Char :=
  (p.advance (cs.takeWhile isGap).length, cs.dropWhile isGap)

/-- Reads the version that a directive gives. -/
def scanVersion (p : Place) (cs : List Char) : Except Fault (Scanned Token) := do
  let (p, cs) := skipGap p cs
  let ⟨major, p, cs⟩ ← scanVersionNumber p cs
  match cs with
  | '.' :: cs =>
    let ⟨minor, p, cs⟩ ← scanVersionNumber (p.advance 1) cs
    return ⟨.version major minor, p, cs⟩
  | _ => throw .directive

/-- Reads the handle that a directive declares, and what it stands for. -/
def scanHandle (p : Place) (cs : List Char) : Except Fault (Scanned Token) := do
  let (p, cs) := skipGap p cs
  match cs with
  | '!' :: cs =>
    let (handle, cs) := spanHandle cs
    let p := p.advance handle.length
    if !(isHandle handle || handle = ['!']) || !(cs.head?.any isGap) then throw .directive
    let (p, cs) := skipGap p cs
    let ⟨base, p, cs⟩ ← scanTagText1 true p cs
    if endsWord cs then return ⟨.handle (String.ofList handle) base, p, cs⟩ else throw .directive
  | _ => throw .directive

/-- Reads a directive after its indicator, up to the end of the line. -/
def scanDirective (p : Place) (cs : List Char) : Except Fault (Scanned Token) := do
  let (name, cs) := cs.span isWord
  let p := p.advance name.length
  if !endsWord cs then throw .directive
  let ⟨token, p, cs⟩ ← match String.ofList name with
    | "YAML" => scanVersion p cs
    | "TAG" => scanHandle p cs
    | _ => throw .directive
  let ⟨_, p, cs⟩ ← restOfLine p cs .directive
  return ⟨token, p, cs⟩

end Portcullis.Yaml
