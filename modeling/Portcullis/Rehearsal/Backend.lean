import Portcullis.Guard.Basic

/-!
# Rehearsals

A rehearsal runs a guard on a virtual clock, against sessions in memory whose calls may be made to fail, and keeps a
journal of what stages and handlers have noted. Ids are issued from a fixed supply; in scripts and in reports the first
of them is written `S1` between braces, the second `S2`, and so on.

* `Rehearsal.store`: the sessions as a store, with the failures that have been arranged.
* `Rehearsal.counted`: a repository that counts its loads and saves, and may be made to fail.
-/

namespace Portcullis.Rehearsal

/-- A snapshot of an exchange. -/
structure Snapshot where
  state : ContextState
  authentication : Option Authentication
  /-- Is a hook for explicit saves installed? -/
  hook : Bool
  session : Option SessionId
  pending : Headers
  decision : Option Cors.Decision

/-- Takes a snapshot. -/
def Snapshot.of {σ : Type} (e : Exchange σ) : Snapshot where
  state := e.state
  authentication := e.context.authentication
  hook := e.hook.isSome
  session := e.session
  pending := e.pending
  decision := e.decision

/-- The result of a call to the session store. -/
inductive CallResult
  | nothing
  | flag (b : Bool)
  | count (n : Nat)
  | id (id : Option SessionId)
  | context (context : Option SecurityContext)
  /-- The argument is no session id. -/
  | noId
  | failed (error : RepositoryError)

/-- What stages and handlers note down. -/
inductive Note
  | handler
  | entered (stage : String) (ahead : Nat)
  | left (stage : String) (status : Nat)
  | wrapped (tag stage : String)
  | saved (b : Bool)
  | triedSave (result : Except RepositoryError Bool)
  | rotated (b : Bool)
  | marked (b : Bool)
  | snapshot (s : Snapshot)
  | called (result : CallResult)

/-- How often a repository has been used. -/
structure Tally where
  name : String
  loads : Nat := 0
  saves : Nat := 0

end Rehearsal

/-- What stands behind the pipeline in a rehearsal. -/
structure Rehearsal where
  sessions : Sessions
  /-- The store calls that are refused. -/
  refused : List String := []
  /-- Does a session vanish just before it is put into? -/
  vanishing : Bool := false
  /-- Notes, the latest first. -/
  journal : List Rehearsal.Note := []
  tallies : List Rehearsal.Tally := []

namespace Rehearsal

instance : Clocked Rehearsal := ⟨fun r => r.sessions.now⟩

/-- Where the ids of a rehearsal come from. -/
def supply (n : Nat) : SessionId :=
  Ulid.ofNat (0x0192A4C6E8135F70_8B3D000000000000 + n)

/-- A rehearsal without sessions. -/
def start (timeout : Option Nat) : Rehearsal where
  sessions := { supply := supply, timeout := timeout }

/-- Notes something down. -/
def note (n : Note) (r : Rehearsal) : Rehearsal :=
  { r with journal := n :: r.journal }

/-! ## The store -/

/-- An operation on the sessions. -/
def onSessions {α : Type} (f : Sessions → α × Sessions) : Op Rehearsal α :=
  modifyGet fun r =>
    let (a, sessions) := f r.sessions
    (a, { r with sessions := sessions })

/-- Refuses a call that is to be refused. A refused call has no effect. -/
def unlessRefused {α : Type} (call : String) (op : Op Rehearsal α) : Op Rehearsal α := do
  if (← get).refused.contains call then throw ⟨"store", call ++ " refused"⟩ else op

/-- Puts a context into a session, which may vanish just before. -/
def putUnlessVanishing (r : Rehearsal) (id : SessionId) (context : SecurityContext) : Bool × Rehearsal :=
  let sessions := if r.vanishing then r.sessions.erase id else r.sessions
  let (b, sessions) := sessions.put id context
  (b, { r with sessions := sessions })

/-- The sessions as a store. -/
def store : Store Rehearsal where
  create := unlessRefused "create" (onSessions Sessions.create)
  isLive id := unlessRefused "exists" (onSessions (·.touch id))
  fetch id := unlessRefused "get" (onSessions (·.fetch id))
  put id context := unlessRefused "put" (modifyGet (putUnlessVanishing · id context))
  clear id := unlessRefused "remove" (onSessions fun s => ((), s.clear id))
  invalidate id := unlessRefused "invalidate" (onSessions fun s => ((), s.erase id))
  rotate id := unlessRefused "change_id" (onSessions (·.rotate id))

/-! ## Counted repositories -/

/-- Changes the tally of a name. -/
def tally (name : String) (f : Tally → Tally) (r : Rehearsal) : Rehearsal :=
  { r with tallies := r.tallies.map fun t => if t.name = name then f t else t }

/-- Starts a tally. -/
def startTally (name : String) (r : Rehearsal) : Rehearsal :=
  { r with tallies := r.tallies ++ [{ name := name }] }

/-- A repository that counts its loads and saves under its name, and then does what another does, or fails. -/
def counted (name : String) (inner : Repository Rehearsal) (failLoad failSave : Bool) : Repository Rehearsal where
  name := name
  load visit := do
    modify (tally name fun t => { t with loads := t.loads + 1 })
    if failLoad then throw ⟨name, "connection refused"⟩ else inner.load visit
  save context := do
    Op.inVisit (modify (tally name fun t => { t with saves := t.saves + 1 }))
    if failSave then throw ⟨name, "connection refused"⟩ else inner.save context
  contains := inner.contains
  rotate := inner.rotate

/-! ## Names of ids -/

/-- The name of the id issued as number `n`, counted from one. -/
def nameOf (n : Nat) : List Char :=
  '\x7b' :: 'S' :: Nat.toDigits 10 n ++ ['\x7d']

/-- The number under which an id has been issued, counted from one. -/
def numberOf? (issued : Nat) (id : SessionId) : Option Nat :=
  let n := id.bits.toNat
  let base := (supply 0).bits.toNat
  if base ≤ n ∧ n < base + issued then some (n - base + 1) else none

/-- Reads a name: the number, and what follows. -/
def spanName? : List Char → Option (Nat × List Char)
  | '\x7b' :: 'S' :: cs =>
    match cs.dropWhile Char.isDigit with
    | '\x7d' :: rest => (Text.decimalValue? (cs.takeWhile Char.isDigit)).map fun n => (n, rest)
    | _ => none
  | _ => none

/-- The text with names replaced by the ids they stand for; names of ids not yet issued stay. -/
def expandNames (issued : Nat) : Nat → List Char → List Char
  | 0, cs => cs
  | _, [] => []
  | fuel + 1, c :: cs =>
    match spanName? (c :: cs) with
    | some (n, rest) =>
      if 1 ≤ n ∧ n ≤ issued then (supply (n - 1)).text.toList ++ expandNames issued fuel rest
      else c :: expandNames issued fuel cs
    | none => c :: expandNames issued fuel cs

/-- The text with names replaced by the ids they stand for. -/
def expand (r : Rehearsal) (s : String) : String :=
  String.ofList (expandNames r.sessions.issued s.length s.toList)

/-- The text with issued ids replaced by their names; `skip` characters belong to an id already replaced. -/
def nameIds (issued : Nat) : Nat → List Char → List Char
  | _, [] => []
  | skip + 1, _ :: cs => nameIds issued skip cs
  | 0, c :: cs =>
    match (Ulid.parse (String.ofList ((c :: cs).take 26))).toOption.bind (numberOf? issued) with
    | some n => nameOf n ++ nameIds issued 25 cs
    | none => c :: nameIds issued 0 cs

/-- The text with issued ids replaced by their names. -/
def report (r : Rehearsal) (s : String) : String :=
  String.ofList (nameIds r.sessions.issued 0 s.toList)

end Rehearsal

end Portcullis
