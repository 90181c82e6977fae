import Portcullis.Pipeline.Authorization
import Portcullis.Pipeline.FormLogin
import Portcullis.Pipeline.Program

/-!
# Stages

The stages of a pipeline, and how a request passes through them: each stage gets the exchange and what lies ahead of it.

* `Stage.run`: one stage.
* `Pipeline.run`: a list of stages and a handler.
-/

namespace Portcullis

/-- What is done with a request that the policies deny. -/
inductive RejectPolicy
  /-- It passes, and its answer carries no headers for other origins. -/
  | passThrough
  /-- It is refused. -/
  | forbid
  deriving DecidableEq, Repr

/-- A stage of a pipeline. -/
inductive Stage (σ : Type) : Type
  /-- Notes requests in the log. -/
  | tracing
  /-- Counts requests and their answers. -/
  | metrics
  /-- Decides about requests from other origins. -/
  | cors (source : Cors.Source) (reject : RejectPolicy)
  /-- Loads the context before the request and saves it after, in any case. -/
  | autoSave (repository : Repository σ)
  /-- Loads the context before the request; it is saved only where somebody asks for it. -/
  | explicitSave (repository : Repository σ)
  | formLogin (settings : FormLogin) (users : Users)
  | httpBasic (realm : String) (users : Users)
  /-- Names nobody as anonymous. -/
  | anonymous
  | authorization (rules : List Rule) (entry : EntryPoint)
  /-- Code of the host. -/
  | custom (name : String) (code : Program σ)
  /-- Another stage, with something done on entering it. -/
  | entered (note : σ → σ) (inner : Stage σ)

namespace Stage

variable {σ : Type}

/-- The name of a stage. -/
def name : Stage σ → String
  | .tracing => "tracing"
  | .metrics => "metrics"
  | .cors .. => "cors"
  | .autoSave _ => "security_context_persistence"
  | .explicitSave _ => "security_context_holder"
  | .formLogin .. => "form_login"
  | .httpBasic .. => "http_basic"
  | .anonymous => "anonymous"
  | .authorization .. => "authorization"
  | .custom name _ => name
  | .entered _ inner => inner.name

/-! ## Requests from other origins -/

/-- The answer to a request from another origin that is refused. -/
def invalidCors : Response :=
  .error 403 "Invalid CORS request"

/-- Puts one header of a decision into an answer. -/
def mergeHeader (r : Response) (field : String × String) : Response :=
  if Headers.named "vary" field then r.addVary field.2 else r.setHeader field.1 field.2

/-- Puts the headers of a decision into an answer. -/
def mergeHeaders (r : Response) (headers : Headers) : Response :=
  headers.foldl mergeHeader r

/-- What a decision makes of a request. -/
def follow (decision : Cors.Decision) (reject : RejectPolicy) (rest : Ahead σ) : Flow σ Response :=
  match decision with
  | .notCrossOrigin | .noPolicy => rest.run
  | .allow headers true => pure ⟨200, headers, .null⟩
  | .deny _ true => pure invalidCors
  | .allow headers false => do return mergeHeaders (← rest.run) headers
  | .deny _ false =>
    match reject with
    | .passThrough => rest.run
    | .forbid => pure invalidCors

/-- The stage that decides about requests from other origins. -/
def runCors (source : Cors.Source) (reject : RejectPolicy) (rest : Ahead σ) : Flow σ Response := do
  let decision := Cors.decide source (← Flow.request)
  Flow.update fun e => { e with decision := some decision }
  follow decision reject rest

/-! ## Security contexts -/

/-- The mark of the stages that load the context. Of several such stages the first does its work and the others pass. -/
def contextMark : String := "security_context"

/-- Runs a stage unless its mark has been left already. -/
def once (mark : String) (rest : Ahead σ) (stage : Flow σ Response) : Flow σ Response := do
  if (← Flow.exchange).isMarked mark then rest.run
  else do
    Flow.update (·.mark mark)
    stage

/-- What becomes of the context when the outcome of the request and of the save are known. Of two errors the earlier,
that of the request, is reported. -/
def settle (outcome : Except Failure Response) (saved : Except RepositoryError Unit) : Flow σ Response := do
  match saved with
  | .ok () => Flow.update fun e => { e with state := .saved }
  | .error _ => Flow.update fun e => { e with state := .discarded }
  match outcome, saved with
  | .error failure, _ => throw failure
  | .ok _, .error error => throw (.repository error)
  | .ok response, .ok () => return response

/-- The stage that saves the context after the request. -/
def runAutoSave (repository : Repository σ) (rest : Ahead σ) : Flow σ Response :=
  once contextMark rest do
    Flow.loadContext repository
    let outcome ← Flow.outcome rest.run
    let saved ← Flow.onVisit (repository.save (← Flow.exchange).context)
    settle outcome saved

/-- The stage that leaves saving to others. A context that nobody has saved is discarded. -/
def runExplicitSave (repository : Repository σ) (rest : Ahead σ) : Flow σ Response :=
  once contextMark rest do
    Flow.loadContext repository
    Flow.update fun e => { e with hook := some repository }
    let outcome ← Flow.outcome rest.run
    Flow.update fun e =>
      { e with hook := none, state := if e.state = .loaded then .discarded else e.state }
    Flow.resume outcome

/-- The stage that names nobody as anonymous. -/
def runAnonymous (rest : Ahead σ) : Flow σ Response := do
  Flow.update fun e => if e.context.isEmpty then e.authenticate .anonymous else e
  rest.run

/-! ## Metrics -/

/-- The stage that counts. -/
def runMetrics [Clocked σ] (rest : Ahead σ) : Flow σ Response := do
  let start ← Flow.now
  let outcome ← Flow.outcome rest.run
  let stop ← Flow.now
  modify fun p => { p with metrics := p.metrics.observe outcome.toOption ((stop - start) * 1000000 % UInt64.size) }
  Flow.resume outcome

/-! ## All stages -/

/-- Runs a stage with what lies ahead of it. -/
def run [Clocked σ] (rest : Ahead σ) : Stage σ → Flow σ Response
  | .tracing => rest.run
  | .metrics => runMetrics rest
  | .cors source reject => runCors source reject rest
  | .autoSave repository => runAutoSave repository rest
  | .explicitSave repository => runExplicitSave repository rest
  | .formLogin settings users => settings.run users rest
  | .httpBasic realm users => HttpBasic.run realm users rest
  | .anonymous => runAnonymous rest
  | .authorization rules entry => Authorization.run rules entry rest
  | .custom _ code => code.run rest
  | .entered note inner => do
    Flow.touch fun s => ((), note s)
    inner.run rest

end Stage

/-- Runs a request through stages and, if all of them pass it on, to a handler. -/
def Pipeline.run {σ : Type} [Clocked σ] (handler : Flow σ Response) : List (Stage σ) → Flow σ Response
  | [] => handler
  | stage :: rest => stage.run ⟨rest.length, Pipeline.run handler rest⟩

end Portcullis
