import Portcullis.Pipeline.Flow

/-!
# Programs

The code of handlers and of stages that a host adds: a tree of the operations that an exchange offers to everybody, each
followed by what is done with its result. A program may look at the exchange whenever it likes, but changes it only
through these operations. The same program serves as a stage, where it may pass the request on (once, several times or
never), and as a handler, where there is nothing ahead.
-/

namespace Portcullis

/-- Code over the operations that an exchange offers. -/
inductive Program (σ : Type) : Type
  /-- Answers. -/
  | answer (response : Response)
  /-- Fails. -/
  | fail (failure : Failure)
  /-- Looks at the exchange. -/
  | look (next : Exchange σ → Program σ)
  /-- Looks at how many stages lie ahead. -/
  | ahead (next : Nat → Program σ)
  /-- Works on what stands behind the pipeline. -/
  | touch (f : σ → σ) (next : σ → Program σ)
  /-- Sets the authentication. -/
  | authenticate (a : Authentication) (next : Program σ)
  /-- Sets the empty context. -/
  | clear (next : Program σ)
  /-- Saves the context through the hook. -/
  | save (next : Except RepositoryError Bool → Program σ)
  /-- Gives the session a new id. -/
  | rotate (next : Except RepositoryError Bool → Program σ)
  /-- Binds the exchange to a session. -/
  | bind (id : SessionId) (next : Program σ)
  /-- Queues a header for the answer. -/
  | queue (name value : String) (next : Program σ)
  /-- Leaves a mark; says whether it is new. -/
  | mark (name : String) (next : Bool → Program σ)
  /-- Passes the request on. -/
  | pass (next : Except Failure Response → Program σ)

namespace Program

variable {σ : Type}

/-- Runs a program with what lies ahead of it. -/
def run (rest : Ahead σ) : Program σ → Flow σ Response
  | .answer response => pure response
  | .fail failure => throw failure
  | .look next => do (next (← Flow.exchange)).run rest
  | .ahead next => (next rest.stages).run rest
  | .touch f next => do
    let s ← Flow.touch fun s => (f s, f s)
    (next s).run rest
  | .authenticate a next => do
    Flow.update (·.authenticate a)
    next.run rest
  | .clear next => do
    Flow.update Exchange.clear
    next.run rest
  | .save next => do (next (← Flow.saveContext)).run rest
  | .rotate next => do (next (← Flow.rotateSession)).run rest
  | .bind id next => do
    Flow.update (·.bindSession id)
    next.run rest
  | .queue name value next => do
    Flow.update (·.queue name value)
    next.run rest
  | .mark name next => do
    let e ← Flow.exchange
    Flow.update (·.mark name)
    (next (!e.isMarked name)).run rest
  | .pass next => do (next (← Flow.outcome rest.run)).run rest

/-- What lies ahead of a handler: nothing that could answer. -/
def nothingAhead : Ahead σ where
  stages := 0
  run := throw (.handler "no handler")

/-- Runs a program as a handler. -/
def handle (p : Program σ) : Flow σ Response :=
  p.run nothingAhead

end Program

end Portcullis
