import Portcullis.Session.Store
import Portcullis.Session.Visit

/-!
# Repositories of security contexts

A repository finds the context that a visit brings along, and keeps the context it leaves with. `Repository.inSession`
keeps contexts in the sessions of a store; `Repository.none` keeps nothing.

Of an exchange a repository sees the visit, and changes nothing else of it: the context at hand, the marks and the hook
for saving are no business of its own. So what is said of every repository is said of those that keep to the visit, as
these two do.
-/

namespace Portcullis

/-- An operation on a visit and the state behind it. -/
abbrev VisitOp (σ α : Type) := Op (Visit × σ) α

/-- The operations of a repository over a state `σ`. -/
structure Repository (σ : Type) where
  name : String
  /-- The context that belongs to the visit. -/
  load : Visit → Op σ SecurityContext
  /-- Keeps a context for the visits to come. -/
  save : SecurityContext → VisitOp σ Unit
  /-- Is a context kept for the visit? -/
  contains : Visit → Op σ Bool
  /-- Gives the visit's session a new id; false when there is no session. -/
  rotate : VisitOp σ Bool

/-- An operation that leaves the visit alone. -/
def Op.inVisit {σ α : Type} (op : Op σ α) : VisitOp σ α :=
  fun (visit, s) =>
    let (result, s) := op s
    (result, (visit, s))

/-- The visit. -/
def VisitOp.visit {σ : Type} : VisitOp σ Visit :=
  fun (visit, s) => (.ok visit, (visit, s))

/-- Binds the visit to a session. -/
def VisitOp.bind {σ : Type} (id : SessionId) : VisitOp σ Unit :=
  fun (visit, s) => (.ok (), (visit.bind id, s))

namespace Repository

variable {σ : Type}

/-- The name of the repository that keeps contexts in sessions. -/
def sessionName : String := "http_session"

/-- Opens a session for a context, binds the visit to it and, if there is something to keep, keeps it there. The
session may be gone before it could be used; that is an error. -/
def openSession (store : Store σ) (context : SecurityContext) : VisitOp σ Unit := do
  let id ← store.create.inVisit
  VisitOp.bind id
  if context.isPersistable then
    unless ← (store.put id context).inVisit do
      throw ⟨sessionName, "session " ++ id.text ++ " vanished before the context was stored"⟩

/-- Keeps a context in a session that is there. -/
def keepInSession (store : Store σ) (id : SessionId) (context : SecurityContext) : VisitOp σ Unit :=
  if context.isPersistable then
    discard (store.put id context).inVisit
  else
    (store.clear id).inVisit

/-- Keeps a context for a visit without a session: opens one if there is something to keep (or `always`), and if
sessions may be opened at all. -/
def keepWithoutSession (store : Store σ) (allow always : Bool) (context : SecurityContext) : VisitOp σ Unit :=
  if !context.isPersistable && !always then pure ()
  else if !allow then pure ()
  else openSession store context

/-- Contexts kept in the sessions of a store. `allow` says whether sessions may be opened, `always` whether one is
opened even when there is nothing to keep. -/
def inSession (store : Store σ) (allow always : Bool) : Repository σ where
  name := sessionName
  load visit :=
    match visit.session with
    | none => pure .empty
    | some id => do return (← store.fetch id).getD .empty
  save context := do
    match (← VisitOp.visit).session with
    | none => keepWithoutSession store allow always context
    | some id =>
      if ← (store.isLive id).inVisit then keepInSession store id context
      else keepWithoutSession store allow always context
  contains visit :=
    match visit.session with
    | none => pure false
    | some id => do return (← store.fetch id).isSome
  rotate := do
    match (← VisitOp.visit).session with
    | none => return false
    | some id =>
      match ← (store.rotate id).inVisit with
      | none => return false
      | some fresh => do
        VisitOp.bind fresh
        return true

/-- Keeps nothing. -/
def none : Repository σ where
  name := "null"
  load _ := pure .empty
  save _ := pure ()
  contains _ := pure false
  rotate := pure false

end Repository

end Portcullis
