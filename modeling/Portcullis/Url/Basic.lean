import Portcullis.Url.Host

/-!
# URLs

As much of a URL as tells an origin: the scheme, the host, the port, whether the path is the root, and whether there is
a query. Reading follows the rules of browsers, which forgive much: blanks around the text, tabs and line breaks inside
it, backslashes for slashes.

* `Url.parse?`: reading.
* `Url.authority`: host and port, as a `host` header names them.
-/

namespace Portcullis

/-- What is known of a URL. -/
structure Url where
  scheme : String
  /-- The host in its one form; none for schemes without one. -/
  host : Option String
  /-- The port, unless it is the usual one for the scheme. -/
  port : Option Nat
  /-- The segments of the path after its dot segments have been resolved; none if the path is no list of segments. -/
  path : Option (List (List Char))
  hasQuery : Bool
  deriving Repr

namespace Url

/-- The schemes that browsers know have hosts, and their usual ports. -/
def usualPorts : List (String × Nat) :=
  [("http", 80), ("https", 443), ("ws", 80), ("wss", 443), ("ftp", 21)]

/-- The usual port of a scheme. -/
def usualPort? (scheme : String) : Option Nat :=
  usualPorts.lookup scheme

/-- How a scheme is read. -/
inductive Kind
  /-- A scheme with hosts and slashes. -/
  | known
  /-- Files. -/
  | file
  /-- Any other scheme. -/
  | other
  deriving DecidableEq

/-- The kind of a scheme. -/
def kindOf (scheme : String) : Kind :=
  if scheme = "file" then .file else if (usualPort? scheme).isSome then .known else .other

/-! ## Scheme, host and port -/

/-- Control characters and blanks, which do not count at the ends. -/
def isEdge (c : Char) : Bool :=
  c.toNat ≤ 32

/-- Tabs and line breaks, which do not count anywhere. -/
def isSkipped (c : Char) : Bool :=
  c = '\t' || c = '\n' || c = '\r'

/-- Reads the scheme, up to its colon. -/
def scheme? (cs : List Char) : Option (String × List Char) := do
  let (name, rest) ← Text.cut ':' cs
  if (name.head?.any Char.isAlpha) && name.all (fun c => c.isAlphanum || "+-.".toList.contains c) then
    some ((String.ofList name).toLower, rest)
  else none

/-- Does the character end the authority? A backslash counts as a slash in known schemes. -/
def endsAuthority (kind : Kind) (c : Char) : Bool :=
  c = '/' || c = '?' || c = '#' || (c = '\\' && kind ≠ .other)

/-- The host without the user before the last `@`. -/
def withoutUser (cs : List Char) : List Char :=
  (cs.reverse.takeWhile (· != '@')).reverse

/-- The host, up to a colon that is not in brackets, and the rest. -/
def spanHost : Bool → List Char → List Char × List Char
  | _, [] => ([], [])
  | inside, c :: cs =>
    if c = ':' ∧ !inside then ([], c :: cs)
    else
      let (host, rest) := spanHost (if c = '[' then true else if c = ']' then false else inside) cs
      (c :: host, rest)

/-- Reads a port; none twice over if there is none, or it is the usual one. -/
def port? (scheme : String) (cs : List Char) : Option (Option Nat) :=
  match cs with
  | [] => some none
  | _ => do
    let n ← Text.decimalValue? cs
    if n ≤ 65535 then some (if usualPort? scheme = some n then none else some n) else none

/-! ## Path -/

/-- Is the segment a dot, plain or escaped? -/
def isDot (cs : List Char) : Bool :=
  [".", "%2e"].contains ((String.ofList cs).toLower)

/-- Is the segment two dots, plain or escaped? -/
def isDoubleDot (cs : List Char) : Bool :=
  ["..", ".%2e", "%2e.", "%2e%2e"].contains ((String.ofList cs).toLower)

/-- Resolves the dot segments; `done` are the segments so far, latest first. -/
def resolveDots : List (List Char) → List (List Char) → List (List Char)
  | done, [] => done.reverse
  | done, seg :: rest =>
    if isDoubleDot seg then resolveDots (if rest.isEmpty then [] :: done.drop 1 else done.drop 1) rest
    else if isDot seg then resolveDots (if rest.isEmpty then [] :: done else done) rest
    else resolveDots (seg :: done) rest

/-- The segments of a path that starts with a slash. -/
def segments (kind : Kind) (cs : List Char) : List (List Char) :=
  resolveDots [] ((cs.drop 1).splitOnP fun c => c = '/' || (c = '\\' && kind ≠ .other))

/-- Is the segment a letter and a colon, or a letter and a bar? -/
def isDriveLetter (cs : List Char) : Bool :=
  match cs with
  | [a, b] => a.isAlpha && (b = ':' || b = '|')
  | _ => false

/-- Does the text start with a drive letter? -/
def startsWithDrive (cs : List Char) : Bool :=
  isDriveLetter (cs.take 2)

/-- The segments of a path: a known scheme has a root in any case. -/
def pathOf (kind : Kind) (cs : List Char) : List (List Char) :=
  match kind, cs with
  | .other, [] => []
  | .other, '/' :: _ => segments kind cs
  | .other, cs => segments kind ('/' :: cs)
  | _, c :: cs => if c = '/' || c = '\\' then segments kind (c :: cs) else segments kind ('/' :: c :: cs)
  | _, [] => [[]]

/-! ## Reading -/

/-- The path of a file: empty segments at its start do not count. -/
def filePath (cs : List Char) : List (List Char) :=
  let segs := (pathOf .file cs).dropWhile (·.isEmpty)
  if segs.isEmpty then [[]] else segs

/-- The text before a query or fragment, and whether there is a query. -/
def spanPath (cs : List Char) : List Char × Bool :=
  let rest := cs.dropWhile fun c => c ≠ '?' && c ≠ '#'
  (cs.takeWhile fun c => c ≠ '?' && c ≠ '#', rest.head? = some '?')

/-- Reads what follows the slashes of a URL with an authority. -/
def authority? (scheme : String) (kind : Kind) (cs : List Char) : Option Url := do
  let server := cs.takeWhile (!endsAuthority kind ·)
  let (before, hasQuery) := spanPath (cs.dropWhile (!endsAuthority kind ·))
  let (name, rest) := spanHost false (withoutUser server)
  let port ← port? scheme ((rest.drop 1).takeWhile (· != '\\'))
  let path := pathOf kind ((rest.drop 1).dropWhile (· != '\\') ++ before)
  if kind = .other then
    let host ← Host.parseOther? name
    if host = "" then
      if rest.isEmpty && server.isEmpty then some ⟨scheme, none, none, some path, hasQuery⟩ else none
    else some ⟨scheme, some host, port, some path, hasQuery⟩
  else some ⟨scheme, ← Host.parse? name, port, some path, hasQuery⟩

/-- Reads what follows the slashes of a file URL with a host. A drive letter in the path makes the host go. -/
def fileAuthority? (cs : List Char) : Option Url := do
  let name := cs.takeWhile (!endsAuthority .file ·)
  let (before, hasQuery) := spanPath (cs.dropWhile (!endsAuthority .file ·))
  let host ← if name.isEmpty || isDriveLetter name then some none else (Host.parse? name).map some
  let path := filePath before
  let drive := path.any isDriveLetter || startsWithDrive (path.headD [])
  some ⟨"file", if drive || host = some "localhost" then none else host, none, some path, hasQuery⟩

/-- Reads a URL. -/
def parse? (s : String) : Option Url := do
  let (scheme, rest) ← scheme? ((Text.stripEnds isEdge s.toList).filter (!isSkipped ·))
  match kindOf scheme with
  | .known => authority? scheme .known (rest.dropWhile fun c => c = '/' || c = '\\')
  | .file =>
    match rest with
    | a :: b :: rest =>
      if (a = '/' || a = '\\') && (b = '/' || b = '\\') then fileAuthority? rest
      else some ⟨scheme, none, none, some (filePath (spanPath (a :: b :: rest)).1), (spanPath (a :: b :: rest)).2⟩
    | _ => some ⟨scheme, none, none, some (filePath (spanPath rest).1), (spanPath rest).2⟩
  | .other =>
    match rest with
    | '/' :: '/' :: rest => authority? scheme .other rest
    | '/' :: _ => some ⟨scheme, none, none, some (pathOf .other (spanPath rest).1), (spanPath rest).2⟩
    | _ => some ⟨scheme, none, none, none, (spanPath rest).2⟩

/-- The path is the root. -/
def isRoot (u : Url) : Bool :=
  u.path = some [[]]

/-- A host with a port. -/
def withPort (host : String) (port : Nat) : String :=
  host ++ ":" ++ Text.decimal port

/-- Host and port, as a `host` header names them. -/
def authority (host : String) : Option Nat → String
  | some port => withPort host port
  | none => host

/-- Does the `host` header name the server of this URL? A usual port may be named or not. -/
def hasAuthority (u : Url) (header : String) : Bool :=
  match u.host with
  | none => false
  | some host =>
    Text.sameIgnoringCase header (authority host u.port) ||
      (u.port.isNone && (usualPort? u.scheme).any fun port => Text.sameIgnoringCase header (withPort host port))

end Url

end Portcullis
