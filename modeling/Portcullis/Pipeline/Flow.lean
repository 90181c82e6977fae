import Portcullis.Pipeline.Exchange
import Portcullis.Pipeline.Metrics
import Portcullis.Session.Memory

/-!
# Flow

The state in which stages and handlers run, and the steps they take in it. A step answers or fails; either way it
leaves the state as it has made it. Nothing is undone by a failure.
-/

namespace Portcullis

/-- Why a request gets no answer. -/
inductive Failure
  /-- A repository of security contexts failed. -/
  | repository (error : RepositoryError)
  /-- The handler gave up. -/
  | handler (reason : String)
  deriving DecidableEq, Repr

/-- What a failure says. -/
def Failure.message : Failure → String
  | .repository error => error.message
  | .handler reason => "handler failed: " ++ reason

/-- The state while an exchange passes through a pipeline. -/
structure Passage (σ : Type) where
  exchange : Exchange σ
  metrics : Metrics
  /-- What stands behind the pipeline: the session store, and whatever else handlers work on. -/
  backend : σ

/-- A step of a stage or a handler. -/
abbrev Flow (σ α : Type) := ExceptT Failure (StateM (Passage σ)) α

namespace Flow

variable {σ α : Type}

/-- The exchange. -/
def exchange : Flow σ (Exchange σ) :=
  fun p => (.ok p.exchange, p)

/-- The request. -/
def request : Flow σ Request :=
  fun p => (.ok p.exchange.request, p)

/-- Changes the exchange. -/
def update (f : Exchange σ → Exchange σ) : Flow σ Unit :=
  fun p => (.ok (), { p with exchange := f p.exchange })

/-- Changes what stands behind the pipeline. -/
def touch (f : σ → α × σ) : Flow σ α :=
  fun p => (.ok (f p.backend).1, { p with backend := (f p.backend).2 })

/-- Runs a step and hands over its outcome instead of failing with it. -/
def outcome (step : Flow σ α) : Flow σ (Except Failure α) :=
  fun p => (.ok (step p).1, (step p).2)

/-- Goes on with an outcome. -/
def resume (result : Except Failure α) : Flow σ α :=
  fun p => (result, p)

/-- An operation of a repository on the visit. -/
def onVisit (op : VisitOp σ α) : Flow σ (Except RepositoryError α) :=
  fun p =>
    let (result, (visit, backend)) := op (p.exchange.toVisit, p.backend)
    (.ok result, { p with exchange := { p.exchange with toVisit := visit }, backend := backend })

/-- Goes on with the result of a repository, or fails with its error. -/
def orFail (result : Except RepositoryError α) : Flow σ α :=
  resume (result.mapError .repository)

/-- Loads the context of the exchange from a repository, and remembers the repository. -/
def loadContext (r : Repository σ) : Flow σ Unit := do
  let visit ← exchange
  let context ← orFail (← touch (r.load visit.toVisit))
  update fun e => { e with context, state := .loaded, repository := some r }

/-- Saves the context through the hook that is installed, if one is; says whether it was. -/
def saveContext : Flow σ (Except RepositoryError Bool) := do
  let e ← exchange
  match e.hook with
  | none => return .ok false
  | some r =>
    match ← onVisit (r.save e.context) with
    | .error error => return .error error
    | .ok () => do
      update fun e => { e with state := .saved }
      return .ok true

/-- Gives the session a new id through the repository that the context was loaded from, if it was loaded. -/
def rotateSession : Flow σ (Except RepositoryError Bool) := do
  match (← exchange).repository with
  | none => return .ok false
  | some r => onVisit r.rotate

/-- The time, in milliseconds. -/
def now [Clocked σ] : Flow σ Nat :=
  fun p => (.ok (Clocked.now p.backend), p)

end Flow

/-- What lies ahead of a stage: the stages after it, and the handler. -/
structure Ahead (σ : Type) where
  /-- How many stages there are. -/
  stages : Nat
  run : Flow σ Response

end Portcullis
