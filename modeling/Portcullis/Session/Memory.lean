import Portcullis.Session.Store

/-!
# Sessions in memory

A session dies when it has not been used for longer than the timeout. Nothing runs in the background: a dead session is
dropped when it is next asked for, when `purge` is called, and by a sweep that every 256th `create` starts with.

* `Sessions.touch`: the use of a session, and the moment at which its death is noticed.
* `Sessions.store`: the operations, as a `Store`.
-/

namespace Portcullis

/-- A session: the context it holds and when it was last used. -/
structure Session where
  context : Option SecurityContext := none
  lastUsed : Nat
  deriving DecidableEq, Repr

/-- The sessions that are held, dead ones included. Times are milliseconds. -/
structure Sessions where
  /-- Where new ids come from. -/
  supply : Nat → SessionId
  /-- How long a session lives unused; without end if there is none. -/
  timeout : Option Nat := some 1800000
  now : Nat := 0
  held : List (SessionId × Session) := []
  /-- How many sessions have been opened. Only the remainder by 256 is made use of (`Sessions.countCreate`), which a
  count of 64 bits that starts over would give as well. -/
  created : Nat := 0
  /-- How many ids have been taken from the supply. -/
  issued : Nat := 0

namespace Sessions

/-- Every this many sessions opened, the dead ones are swept out. -/
def sweepEvery : Nat := 256

/-- Time passes. -/
def wait (s : Sessions) (ms : Nat) : Sessions :=
  { s with now := s.now + ms }

/-- Has the session been unused for longer than the timeout? -/
def isDead (s : Sessions) (session : Session) : Bool :=
  s.timeout.any fun limit => limit < s.now - session.lastUsed

/-- The session held under an id, dead or alive. -/
def find? (s : Sessions) (id : SessionId) : Option Session :=
  s.held.lookup id

/-- Without the session of an id. -/
def erase (s : Sessions) (id : SessionId) : Sessions :=
  { s with held := s.held.filter (·.1 != id) }

/-- With a session under an id, in place of one that was there. -/
def insert (s : Sessions) (id : SessionId) (session : Session) : Sessions :=
  { s with held := (id, session) :: (s.erase id).held }

/-- Changes the session of an id, if there is one. -/
def modify (s : Sessions) (id : SessionId) (f : Session → Session) : Sessions :=
  { s with held := s.held.map fun (i, session) => if i = id then (i, f session) else (i, session) }

/-- How many sessions are held. -/
def size (s : Sessions) : Nat :=
  s.held.length

/-- Drops the dead sessions. -/
def purge (s : Sessions) : Sessions :=
  { s with held := s.held.filter fun entry => !s.isDead entry.2 }

/-- How many sessions `purge` drops. -/
def purgeCount (s : Sessions) : Nat :=
  s.size - s.purge.size

/-- Uses a session: true, and its life starts over, when it is alive; false, and it is dropped, when it is dead. -/
def touch (s : Sessions) (id : SessionId) : Bool × Sessions :=
  match s.find? id with
  | none => (false, s)
  | some session =>
    if s.isDead session then (false, s.erase id)
    else (true, s.modify id fun session => { session with lastUsed := s.now })

/-- The next id of the supply. -/
def issue (s : Sessions) : SessionId × Sessions :=
  (s.supply s.issued, { s with issued := s.issued + 1 })

/-- Counts one more session opened, and sweeps when it is time. -/
def countCreate (s : Sessions) : Sessions :=
  let s' := if s.created % sweepEvery = sweepEvery - 1 then s.purge else s
  { s' with created := s.created + 1 }

/-- Opens a session. -/
def create (s : Sessions) : SessionId × Sessions :=
  let (id, s) := s.countCreate.issue
  (id, s.insert id { lastUsed := s.now })

/-- The context of a live session. -/
def fetch (s : Sessions) (id : SessionId) : Option SecurityContext × Sessions :=
  match s.touch id with
  | (false, s) => (none, s)
  | (true, s) => ((s.find? id).bind (·.context), s)

/-- Makes a live session hold a context. -/
def put (s : Sessions) (id : SessionId) (context : SecurityContext) : Bool × Sessions :=
  match s.touch id with
  | (false, s) => (false, s)
  | (true, s) => (true, s.modify id fun session => { session with context := some context })

/-- Makes a session hold no context. This is no use of the session. -/
def clear (s : Sessions) (id : SessionId) : Sessions :=
  s.modify id fun session => { session with context := none }

/-- Moves a live session to a new id. -/
def rotate (s : Sessions) (id : SessionId) : Option SessionId × Sessions :=
  match s.touch id with
  | (false, s) => (none, s)
  | (true, s) =>
    match s.find? id with
    | none => (none, s)
    | some session =>
      let (fresh, s) := (s.erase id).issue
      (some fresh, s.insert fresh session)

/-- The sessions in memory as a store; none of its operations fails. -/
def store : Store Sessions where
  create := modifyGet create
  isLive id := modifyGet (·.touch id)
  fetch id := modifyGet (·.fetch id)
  put id context := modifyGet (·.put id context)
  clear id := modifyGet fun s => ((), s.clear id)
  invalidate id := modifyGet fun s => ((), s.erase id)
  rotate id := modifyGet (·.rotate id)

end Sessions

/-- A state that knows the time. -/
class Clocked (σ : Type) where
  /-- The time, in milliseconds. -/
  now : σ → Nat

instance : Clocked Sessions := ⟨Sessions.now⟩

end Portcullis
