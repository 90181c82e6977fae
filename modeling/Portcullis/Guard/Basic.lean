import Portcullis.Guard.Chain

/-!
# Guards

A guard holds chains; a request goes through the first chain whose pattern covers its path, and straight to the handler
if there is none.

* `Guard.execute`: the pipeline alone.
* `Guard.handle`: an exchange of its own, and the answer with the headers that were queued.
* `Guard.serve`: the same, with an answer also where the pipeline has failed.
-/

namespace Portcullis

/-- Chains in order. -/
structure Guard (σ : Type) where
  chains : List (Chain σ) := []

namespace Guard

variable {σ : Type}

/-- The chain for a path. -/
def chainFor? (g : Guard σ) (path : String) : Option (Chain σ) :=
  g.chains.find? (·.matcher.covers path)

/-- The names of the stages for a path. -/
def stageNamesFor (g : Guard σ) (path : String) : List String :=
  ((g.chainFor? path).map Chain.stageNames).getD []

/-- A new exchange for a request, with the session cookie of its chain. -/
def newExchange (g : Guard σ) (r : Request) : Exchange σ :=
  .ofRequest r (((g.chainFor? r.path).map (·.cookieName)).getD "SESSION")

/-- Runs an exchange through its chain and to the handler. -/
def execute [Clocked σ] (g : Guard σ) (handler : Flow σ Response) : Flow σ Response := do
  match g.chainFor? (← Flow.request).path with
  | some chain => Pipeline.run handler chain.stages
  | none => handler

/-- What a guard is at work on between requests. -/
structure Desk (σ : Type) where
  metrics : Metrics := {}
  backend : σ

/-- Runs a new exchange for a request; the outcome, the exchange and the desk afterwards. -/
def runRequest [Clocked σ] (g : Guard σ) (handler : Flow σ Response) (r : Request) (d : Desk σ) :
    Except Failure Response × Exchange σ × Desk σ :=
  let (outcome, p) := g.execute handler ⟨g.newExchange r, d.metrics, d.backend⟩
  (outcome, p.exchange, ⟨p.metrics, p.backend⟩)

/-- Answers a request, or fails. -/
def handle [Clocked σ] (g : Guard σ) (handler : Flow σ Response) (r : Request) (d : Desk σ) :
    Except Failure Response × Desk σ :=
  let (outcome, e, d) := g.runRequest handler r d
  (outcome.map e.finish, d)

/-- The answer to a request whose pipeline has failed. -/
def internalError : Response :=
  .error 500 "Internal Server Error"

/-- Answers a request. -/
def serve [Clocked σ] (g : Guard σ) (handler : Flow σ Response) (r : Request) (d : Desk σ) : Response × Desk σ :=
  let (outcome, e, d) := g.runRequest handler r d
  (e.finish (outcome.toOption.getD internalError), d)

end Guard

end Portcullis
