import Portcullis.Cors.Decision
import Portcullis.Http.Response
import Portcullis.Session.Repository

/-!
# Exchanges

An exchange is one request on its way through the pipeline: the visit, the security context and what has been done
with it, and what the stages have noted down.
-/

namespace Portcullis

/-- What has been done with the security context of an exchange. -/
inductive ContextState
  | notLoaded
  | loaded
  | saved
  | discarded
  deriving DecidableEq, Repr

/-- The name of a state. -/
def ContextState.name : ContextState → String
  | .notLoaded => "NotLoaded"
  | .loaded => "Loaded"
  | .saved => "Saved"
  | .discarded => "Discarded"

/-- One request on its way through the pipeline. -/
structure Exchange (σ : Type) extends Visit where
  context : SecurityContext := .empty
  state : ContextState := .notLoaded
  /-- The repository that an explicit save goes to. -/
  hook : Option (Repository σ) := none
  /-- The repository that the context was loaded from. -/
  repository : Option (Repository σ) := none
  /-- The marks that stages have left. -/
  marks : List String := []
  decision : Option Cors.Decision := none

namespace Exchange

variable {σ : Type}

/-- A new exchange. -/
def ofRequest (request : Request) (cookieName : String) : Exchange σ :=
  { toVisit := Visit.ofRequest request cookieName }

/-- Sets the authentication. -/
def authenticate (e : Exchange σ) (a : Authentication) : Exchange σ :=
  { e with context := ⟨some a⟩ }

/-- Sets the context to the empty one. -/
def clear (e : Exchange σ) : Exchange σ :=
  { e with context := .empty }

/-- Has the mark been left? -/
def isMarked (e : Exchange σ) (mark : String) : Bool :=
  e.marks.contains mark

/-- Leaves a mark. -/
def mark (e : Exchange σ) (mark : String) : Exchange σ :=
  if e.isMarked mark then e else { e with marks := e.marks ++ [mark] }

/-- Queues a header for the answer. -/
def queue (e : Exchange σ) (name value : String) : Exchange σ :=
  { e with pending := e.pending ++ [(name, value)] }

/-- Binds the exchange to a session. -/
def bindSession (e : Exchange σ) (id : SessionId) : Exchange σ :=
  { e with toVisit := e.toVisit.bind id }

/-- The answer with the queued headers. -/
def finish (e : Exchange σ) (r : Response) : Response :=
  r.append e.pending

theorem getAll_finish (e : Exchange σ) (r : Response) (name : String) :
    (e.finish r).headers.getAll name = r.headers.getAll name ++ e.pending.getAll name :=
  Headers.getAll_append r.headers e.pending name

end Exchange

end Portcullis
