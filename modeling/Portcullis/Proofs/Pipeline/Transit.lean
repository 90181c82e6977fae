import Portcullis.Proofs.Pipeline.Login

/-!
# Transits

What a stage makes of a request, with what lies ahead of it left open: a tree that either settles the outcome, or asks
what lies ahead and goes on with the answer. So the tree says how often what lies ahead is asked, and in which states,
whatever it is.

* `Stage.run_transit`, `Guard.run_transit`: a stage and a guard do what their trees say.
* `Transit.run_through`: two trees, one ahead of the other.
* `Transit.run_congr`: only what is done in the states that are asked in makes a difference.
-/

namespace Portcullis

variable {σ : Type}

/-- What becomes of a request, as far as that does not depend on what lies ahead. -/
inductive Transit (σ : Type) : Type
  /-- The outcome is settled. -/
  | settled (outcome : Except Failure Response) (p : Passage σ)
  /-- What lies ahead is asked, and its outcome is dealt with. -/
  | ask (p : Passage σ) (next : Except Failure Response → Passage σ → Transit σ)

namespace Transit

/-! ## Running a tree -/

/-- The outcome, and the state it is reached in, when `rest` lies ahead. -/
def run (rest : Flow σ Response) : Transit σ → Except Failure Response × Passage σ
  | settled outcome p => (outcome, p)
  | ask p next => (next (rest p).1 (rest p).2).run rest

/-- The states in which `rest` is asked, in order. -/
def asked (rest : Flow σ Response) : Transit σ → List (Passage σ)
  | settled _ _ => []
  | ask p next => p :: (next (rest p).1 (rest p).2).asked rest

/-- Goes on with the outcome. -/
def andThen (f : Except Failure Response → Passage σ → Transit σ) : Transit σ → Transit σ
  | settled outcome p => f outcome p
  | ask p next => ask p fun outcome q => (next outcome q).andThen f

/-- Puts another tree in the place of what lies ahead. -/
def through (ahead : Passage σ → Transit σ) : Transit σ → Transit σ
  | settled outcome p => settled outcome p
  | ask p next => (ahead p).andThen fun outcome q => (next outcome q).through ahead

/-- Passes the request on and the outcome back. -/
def pass (p : Passage σ) : Transit σ :=
  ask p settled

/-- Settles the outcome by a last step. -/
def close (f : Flow σ Response) (p : Passage σ) : Transit σ :=
  settled (f p).1 (f p).2

/-- Takes a step and goes on with its answer, if it gives one. -/
def step {α : Type} (f : Flow σ α) (next : α → Passage σ → Transit σ) (p : Passage σ) : Transit σ :=
  match f p with
  | (.ok a, q) => next a q
  | (.error e, q) => settled (.error e) q

variable {rest : Flow σ Response}

@[simp] theorem run_pass (p : Passage σ) : (pass p).run rest = rest p := rfl

theorem run_step {α : Type} (f : Flow σ α) (next : α → Passage σ → Transit σ) (p : Passage σ) :
    (step f next p).run rest = (f >>= fun a q => (next a q).run rest) p := by
  rw [Steps.bind_apply, step]
  rcases f p with ⟨e | a, q⟩ <;> rfl

theorem run_andThen (f : Except Failure Response → Passage σ → Transit σ) (t : Transit σ) :
    (t.andThen f).run rest = (f (t.run rest).1 (t.run rest).2).run rest := by
  induction t with
  | settled outcome p => rfl
  | ask p next ih => exact ih _ _

theorem run_through (ahead : Passage σ → Transit σ) (t : Transit σ) :
    (t.through ahead).run rest = t.run fun p => (ahead p).run rest := by
  induction t with
  | settled outcome p => rfl
  | ask p next ih => rw [through, run_andThen, ih, run]

/-- What lies ahead matters only in the states in which it is asked. -/
theorem run_congr {other : Flow σ Response} {t : Transit σ} (h : ∀ p ∈ t.asked rest, rest p = other p) :
    t.run rest = t.run other := by
  induction t with
  | settled outcome p => rfl
  | ask p next ih =>
    rw [asked, List.forall_mem_cons] at h
    rw [run, run, ← h.1]
    exact ih _ _ h.2

end Transit

/-! ## The trees of stages -/

/-- What a program makes of a request with this many stages ahead. -/
def Program.transit (ahead : Nat) : Program σ → Passage σ → Transit σ
  | .answer response, p => .settled (.ok response) p
  | .fail failure, p => .settled (.error failure) p
  | .look next, p => (next p.exchange).transit ahead p
  | .ahead next, p => (next ahead).transit ahead p
  | .touch f next, p => (next (f p.backend)).transit ahead { p with backend := f p.backend }
  | .authenticate a next, p => next.transit ahead { p with exchange := p.exchange.authenticate a }
  | .clear next, p => next.transit ahead { p with exchange := p.exchange.clear }
  | .save next, p => Transit.step Flow.saveContext (fun saved q => (next saved).transit ahead q) p
  | .rotate next, p => Transit.step Flow.rotateSession (fun rotated q => (next rotated).transit ahead q) p
  | .bind id next, p => next.transit ahead { p with exchange := p.exchange.bindSession id }
  | .queue name value next, p => next.transit ahead { p with exchange := p.exchange.queue name value }
  | .mark name next, p =>
    (next (!p.exchange.isMarked name)).transit ahead { p with exchange := p.exchange.mark name }
  | .pass next, p => .ask p fun outcome q => (next outcome).transit ahead q

namespace Stage

/-- What a decision about other origins makes of a request. -/
def corsTransit (decision : Cors.Decision) (reject : RejectPolicy) (p : Passage σ) : Transit σ :=
  match decision with
  | .notCrossOrigin | .noPolicy => .pass p
  | .allow headers true => .settled (.ok ⟨200, headers, .null⟩) p
  | .deny _ true => .settled (.ok invalidCors) p
  | .allow headers false => .ask p fun outcome q => .settled (outcome.map (mergeHeaders · headers)) q
  | .deny _ false =>
    match reject with
    | .passThrough => .pass p
    | .forbid => .settled (.ok invalidCors) p

/-- A stage that passes the request on where its mark has been left already. -/
def onceTransit (mark : String) (first : Passage σ → Transit σ) (p : Passage σ) : Transit σ :=
  if p.exchange.isMarked mark then .pass p
  else first { p with exchange := p.exchange.mark mark }

/-- What a stage makes of a request with this many stages ahead. -/
def transit [Clocked σ] (ahead : Nat) : Stage σ → Passage σ → Transit σ
  | .tracing, p => .pass p
  | .metrics, p => .ask p fun outcome q =>
    .settled outcome { q with
      metrics := q.metrics.observe outcome.toOption
        ((Clocked.now q.backend - Clocked.now p.backend) * 1000000 % UInt64.size) }
  | .cors source reject, p =>
    corsTransit (Cors.decide source p.exchange.request) reject
      { p with exchange := { p.exchange with decision := some (Cors.decide source p.exchange.request) } }
  | .autoSave repository, p =>
    onceTransit contextMark (Transit.step (Flow.loadContext repository) fun _ p =>
      .ask p fun outcome q => .close
        (do settle outcome (← Flow.onVisit (repository.save q.exchange.context))) q) p
  | .explicitSave repository, p =>
    onceTransit contextMark (Transit.step (Flow.loadContext repository) fun _ p =>
      .ask { p with exchange := { p.exchange with hook := some repository } } fun outcome q =>
        .settled outcome { q with exchange := { q.exchange with
          hook := none
          state := if q.exchange.state = .loaded then .discarded else q.exchange.state } }) p
  | .formLogin settings users, p =>
    if settings.asksPage p.exchange.request then .settled (.ok (settings.pageResponse p.exchange.request)) p
    else if settings.isSubmission p.exchange.request then
      match settings.verdict users p.exchange.request with
      | none => .settled (.ok (.redirect settings.failureUrl)) p
      | some a => .close (settings.succeed a) p
    else .pass p
  | .httpBasic realm users, p =>
    match HttpBasic.verdict users p.exchange.request with
    | none => .pass p
    | some none => .settled (.ok (HttpBasic.challenge realm)) p
    | some (some a) => .pass { p with exchange := p.exchange.authenticate a }
  | .anonymous, p =>
    .pass { p with exchange := if p.exchange.context.isEmpty then p.exchange.authenticate .anonymous else p.exchange }
  | .authorization rules entry, p =>
    if Authorization.grants rules p.exchange.request p.exchange.context then .pass p
    else if p.exchange.context.isAuthenticated then .settled (.ok accessDenied) p
    else .settled (.ok entry.response) p
  | .custom _ code, p => code.transit ahead p
  | .entered note inner, p => inner.transit ahead { p with backend := note p.backend }

end Stage

/-- What stages make of a request. -/
def Pipeline.transit [Clocked σ] : List (Stage σ) → Passage σ → Transit σ
  | [], p => .pass p
  | stage :: rest, p => (stage.transit rest.length p).through (Pipeline.transit rest)

/-- What a guard makes of a request; what lies ahead of it is the handler. -/
def Guard.transit [Clocked σ] (g : Guard σ) (p : Passage σ) : Transit σ :=
  match g.chainFor? p.exchange.request.path with
  | some chain => Pipeline.transit chain.stages p
  | none => .pass p

/-- The states in which a guard starts the handler. -/
def Guard.starts [Clocked σ] (g : Guard σ) (handler : Flow σ Response) (p : Passage σ) : List (Passage σ) :=
  (g.transit p).asked handler

/-! ## Stages do what their trees say -/

theorem Program.run_transit (rest : Ahead σ) (code : Program σ) (p : Passage σ) :
    (code.transit rest.stages p).run rest.run = code.run rest p := by
  induction code generalizing p with
  | answer response => rfl
  | fail failure => rfl
  | look next ih => exact ih _ _
  | ahead next ih => exact ih _ _
  | touch f next ih => exact ih _ _
  | authenticate a next ih => exact ih _
  | clear next ih => exact ih _
  | save next ih => simp only [Program.transit, Program.run, Transit.run_step, Steps.bind_apply, ih]
  | rotate next ih => simp only [Program.transit, Program.run, Transit.run_step, Steps.bind_apply, ih]
  | bind id next ih => exact ih _
  | queue name value next ih => exact ih _
  | mark name next ih => exact ih _ _
  | pass next ih => exact ih _ _

section Runs

variable {rest : Flow σ Response}

theorem Stage.run_corsTransit (decision : Cors.Decision) (reject : RejectPolicy) (n : Nat) (p : Passage σ) :
    (corsTransit decision reject p).run rest = follow decision reject ⟨n, rest⟩ p := by
  rcases decision with _ | _ | ⟨headers, _ | _⟩ | ⟨reason, _ | _⟩
  case allow.false =>
    simp only [corsTransit, follow, Transit.run, Steps.bind_apply]
    rcases rest p with ⟨e | r, q⟩ <;> rfl
  all_goals cases reject <;> rfl

theorem Stage.run_onceTransit (mark : String) (first : Passage σ → Transit σ) (n : Nat) (p : Passage σ) :
    (onceTransit mark first p).run rest = once mark ⟨n, rest⟩ (fun p => (first p).run rest) p := by
  by_cases h : p.exchange.isMarked mark <;> simp [onceTransit, once, Flow.exchange, Flow.update, h]

theorem Stage.run_transit [Clocked σ] (n : Nat) (stage : Stage σ) (p : Passage σ) :
    (stage.transit n p).run rest = stage.run ⟨n, rest⟩ p := by
  induction stage generalizing p with
  | tracing => rfl
  | metrics => rfl
  | cors source reject => exact run_corsTransit _ _ n _
  | autoSave repository =>
    rw [transit, run_onceTransit (n := n), run, runAutoSave]
    congr 1
    funext p
    rw [Transit.run_step]
    simp only [Steps.bind_apply, Flow.outcome, Flow.exchange]
    rfl
  | explicitSave repository =>
    rw [transit, run_onceTransit (n := n), run, runExplicitSave]
    congr 1
    funext p
    rw [Transit.run_step]
    simp only [Steps.bind_apply, Flow.outcome, Flow.update]
    rfl
  | formLogin settings users =>
    simp only [transit, run, FormLogin.run, Steps.bind_apply, Flow.request, FormLogin.submit_eq]
    cases settings.asksPage p.exchange.request <;> cases settings.isSubmission p.exchange.request <;>
      cases settings.verdict users p.exchange.request <;> rfl
  | httpBasic realm users =>
    rw [run, HttpBasic.run_eq, transit]
    rcases HttpBasic.verdict users p.exchange.request with _ | _ | a <;> rfl
  | anonymous => rfl
  | authorization rules entry =>
    simp only [transit, run, Authorization.run, Steps.bind_apply, Flow.exchange]
    repeat' split
    all_goals rfl
  | custom name code => exact code.run_transit ⟨n, rest⟩ p
  | entered note inner ih => exact ih _

theorem Pipeline.run_transit [Clocked σ] (handler : Flow σ Response) (stages : List (Stage σ)) (p : Passage σ) :
    (Pipeline.transit stages p).run handler = Pipeline.run handler stages p := by
  induction stages generalizing p with
  | nil => rfl
  | cons stage rest ih =>
    rw [Pipeline.transit, Transit.run_through, Stage.run_transit, Pipeline.run]
    simp only [ih]

theorem Guard.run_transit [Clocked σ] (g : Guard σ) (handler : Flow σ Response) (p : Passage σ) :
    (g.transit p).run handler = g.execute handler p := by
  simp only [Guard.transit, Guard.execute, Steps.bind_apply, Flow.request]
  cases g.chainFor? p.exchange.request.path with
  | none => rfl
  | some chain => exact Pipeline.run_transit handler chain.stages p

end Runs

end Portcullis
