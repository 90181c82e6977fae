import Portcullis.Rehearsal.Script

/-!
# Running a rehearsal

Steps are taken one after the other: requests with a handler, calls to the store, questions to the guard.
-/

namespace Portcullis.Rehearsal

/-- A request as a script writes it; names stand for ids issued before. -/
structure RequestSpec where
  method : Method
  target : String
  headers : List (String × String) := []
  cookies : List (String × String) := []
  body : Option String := none

/-- The request. -/
def RequestSpec.build (s : RequestSpec) (r : Rehearsal) : Request :=
  let request := s.headers.foldl (fun q h => q.withHeader h.1 (r.expand h.2)) (Request.ofTarget s.method s.target)
  let request := s.cookies.foldl (fun q c => q.withCookie c.1 (r.expand c.2)) request
  match s.body with
  | some body => request.withBody (r.expand body)
  | none => request

/-- How a request is run. -/
inductive Mode
  | serve
  | handle
  /-- The pipeline alone. -/
  | execute
  deriving DecidableEq, Repr

/-- A step. -/
inductive Step
  | request (spec : RequestSpec) (mode : Mode) (handler : List Action)
  | call (c : StoreCall)
  | stagesFor (path : String) (names : List String)
  | metrics

/-- What has become of a request. -/
structure Report where
  outcome : Except Failure Response
  notes : List Note
  held : Nat
  tallies : List Tally
  /-- The exchange afterwards, and whether its context was loaded by some stage, where the pipeline was run alone. -/
  exchange : Option (Snapshot × Bool)

/-- The result of a step. -/
inductive StepResult
  | request (r : Report)
  | call (result : CallResult) (held : Nat)
  | stagesFor (matcher : Option String) (stages : List String) (contains : List Bool)
  | metrics (m : Metrics)

/-- The desk of a guard in rehearsal. -/
abbrev RehearsalDesk := Guard.Desk Rehearsal

/-- Runs a request. -/
def runRequest (g : Guard Rehearsal) (d : RehearsalDesk) (spec : RequestSpec) (mode : Mode) (handler : List Action) :
    Report × RehearsalDesk :=
  let request := spec.build d.backend
  let d := { d with backend := { d.backend with journal := [] } }
  let (outcome, e, after) := g.runRequest (scriptedHandler handler) request d
  let outcome := match mode with
    | .execute => outcome
    | .handle => outcome.map e.finish
    | .serve => .ok (e.finish (outcome.toOption.getD Guard.internalError))
  ({ outcome
     notes := after.backend.journal.reverse
     held := after.backend.sessions.size
     tallies := after.backend.tallies
     exchange := if mode = .execute then some (.of e, e.isMarked Stage.contextMark) else none }, after)

/-- Takes a step. -/
def takeStep (g : Guard Rehearsal) (d : RehearsalDesk) : Step → StepResult × RehearsalDesk
  | .request spec mode handler =>
    let (report, d) := runRequest g d spec mode handler
    (.request report, d)
  | .call c =>
    let (result, backend) := c.run d.backend
    (.call result backend.sessions.size, { d with backend := backend })
  | .stagesFor path names =>
    let chain := g.chainFor? path
    (.stagesFor (chain.map (·.matcher.text)) (g.stageNamesFor path)
      (names.map fun name => (g.stageNamesFor path).contains name), d)
  | .metrics => (.metrics d.metrics, d)

end Portcullis.Rehearsal
