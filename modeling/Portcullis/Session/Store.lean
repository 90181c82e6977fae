import Portcullis.Security.Authentication
import Portcullis.Session.Id

/-!
# Session stores

What the pipeline asks of a session store, whatever its state `σ` is. Every operation may be refused, and a refused
operation may still have changed the state: the state is threaded through success and failure alike.
-/

namespace Portcullis

/-- A repository of security contexts failed. -/
structure RepositoryError where
  repository : String
  reason : String
  deriving DecidableEq, Repr

/-- What a failure says. -/
def RepositoryError.message (e : RepositoryError) : String :=
  "security context repository '" ++ e.repository ++ "' failed: " ++ e.reason

/-- An operation on a state that may fail, and keeps what it has done when it does. -/
abbrev Op (σ α : Type) := ExceptT RepositoryError (StateM σ) α

/-- The operations of a session store. -/
structure Store (σ : Type) where
  /-- Opens a session without a context. -/
  create : Op σ SessionId
  /-- Is the session alive? Asking counts as a use of it. -/
  isLive : SessionId → Op σ Bool
  /-- The context that a session holds. -/
  fetch : SessionId → Op σ (Option SecurityContext)
  /-- Makes a session hold a context; false when there is no such session. -/
  put : SessionId → SecurityContext → Op σ Bool
  /-- Makes a session hold no context. -/
  clear : SessionId → Op σ Unit
  /-- Ends a session. -/
  invalidate : SessionId → Op σ Unit
  /-- Moves a session to a new id; none when there is no such session. -/
  rotate : SessionId → Op σ (Option SessionId)

end Portcullis
