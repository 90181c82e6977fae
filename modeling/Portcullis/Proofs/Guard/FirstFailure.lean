import Portcullis.Proofs.Guard.Hosting
import Portcullis.Proofs.Pipeline.Contract
import Portcullis.Proofs.Pipeline.Logbook

/-!
# The first failure

Several things may fail while one request passes through a guard: loading, giving the session a new id, a save that is
asked for, the handler, and the save after it. The library's own stages fail exactly where something has failed, and
with what has failed first (`Guard.first_failure_reported`).

* `Stage.logs`, `Pipeline.logs`, `Guard.logs`: with a log all goes as it does without; and where the stages are the
  library's own, the outcome tells of what has been noted first.
* `Stage.logs_settle`: a save after a request that has failed. What the save fails with is noted, and nobody is told.
-/

namespace Portcullis

variable {σ : Type}

/-! ## Stages beside stages with a log -/

section Stages

open Portcullis.Flow

variable {rest : Flow σ Response} {rest' : Flow (Logbook σ) Response} {own : Prop}

theorem Program.logs (hrest : Logs (fun _ _ => True) rest rest') (n : Nat) (code : Program σ) :
    Logs (fun _ _ => True) (code.run ⟨n, rest⟩) (code.logged.run ⟨n, rest'⟩) := by
  induction code with
  | answer response => exact logs_pure trivial
  | fail failure => exact logs_resume trivial
  | look next ih =>
    refine logs_look fun e => ?_
    simp only [Exchange.unlogged_logged]
    exact ih e
  | ahead next ih => exact ih n
  | touch f next ih => exact fun p log => ih (f p.backend) { p with backend := f p.backend } log
  | authenticate a next ih => exact logs_update (fun _ => rfl) ih
  | clear next ih => exact logs_update (fun _ => rfl) ih
  | save next ih => exact logs_saveContext.bind_any ih
  | rotate next ih => exact logs_rotateSession.bind_any ih
  | bind id next ih => exact logs_update (fun _ => rfl) ih
  | queue name value next ih => exact logs_update (fun _ => rfl) ih
  | mark name next ih =>
    exact logs_look fun e => logs_update (fun e => (e.logged_mark name).symm) (ih (!e.isMarked name))
  | pass next ih => exact hrest.outcome.bind_any ih

namespace Stage

theorem logs_once (n : Nat) (mark : String) (hrest : Logs (First own) rest rest') {stage : Flow σ Response}
    {stage' : Flow (Logbook σ) Response} (h : Logs (First own) stage stage') :
    Logs (First own) (once mark ⟨n, rest⟩ stage) (once mark ⟨n, rest'⟩ stage') := by
  refine logs_look fun e => ?_
  rw [Exchange.logged_isMarked]
  split
  · exact hrest
  · exact logs_update (fun e => (e.logged_mark mark).symm) h

/-- After a save the earlier failure is told of, that of the request; its own is told of where there is none. -/
theorem logs_settle (outcome : Except Failure Response) (saved : Except RepositoryError Unit) {before : List Failure}
    (h : First own outcome before) :
    Logs (fun result failures => First own result (before ++ RepositoryError.noted saved ++ failures))
      (settle outcome saved : Flow σ Response) (settle outcome saved) := by
  intro p log
  refine ⟨[], ?_, fun hown => ?_⟩
  · rw [List.append_nil]
    cases saved <;> cases outcome <;> rfl
  · rw [List.append_nil, List.head?_append, ← h hown]
    cases saved <;> cases outcome <;> rfl

theorem logs_autoSave (n : Nat) (hrest : Logs (First own) rest rest') (r : Repository σ) :
    Logs (First own) (runAutoSave r ⟨n, rest⟩) (runAutoSave r.logged ⟨n, rest'⟩) := by
  refine logs_once n contextMark hrest ((logs_loadContext own r).bind (fun _ _ h => h) fun _ before hbefore => ?_)
  refine hrest.outcome.bind (by rintro _ _ ⟨_, ⟨⟩, _⟩) ?_
  rintro outcome after ⟨_, ⟨⟩, hafter⟩
  refine logs_look fun e => (logs_onVisit (r.save e.context)).bind (by rintro _ _ ⟨_, ⟨⟩, _⟩) ?_
  rintro saved _ ⟨_, ⟨⟩, rfl⟩
  refine (logs_settle outcome saved hafter).mono fun result failures hresult hown => ?_
  have hnone : before.head? = none := (hbefore hown).symm
  rw [List.head?_eq_none_iff.1 hnone, List.nil_append, ← List.append_assoc]
  exact hresult hown

theorem logs_explicitSave (n : Nat) (hrest : Logs (First own) rest rest') (r : Repository σ) :
    Logs (First own) (runExplicitSave r ⟨n, rest⟩) (runExplicitSave r.logged ⟨n, rest'⟩) := by
  refine logs_once n contextMark hrest ((logs_loadContext own r).bind (fun _ _ h => h) fun _ before hbefore => ?_)
  refine logs_update (fun _ => rfl) (hrest.outcome.bind (by rintro _ _ ⟨_, ⟨⟩, _⟩) ?_)
  rintro outcome after ⟨_, ⟨⟩, hafter⟩
  refine logs_update (fun _ => rfl) (logs_resume fun hown => ?_)
  have hnone : before.head? = none := (hbefore hown).symm
  rw [List.head?_eq_none_iff.1 hnone, List.nil_append, List.append_nil]
  exact hafter hown

theorem logs_follow (n : Nat) (hrest : Logs (First own) rest rest') (decision : Cors.Decision) (reject : RejectPolicy) :
    Logs (First own) (follow decision reject ⟨n, rest⟩) (follow decision reject ⟨n, rest'⟩) := by
  have hpure (response : Response) :
      Logs (First own) (pure response : Flow σ Response) (pure response) := logs_pure fun _ => rfl
  rcases decision with _ | _ | ⟨headers, _ | _⟩ | ⟨reason, _ | _⟩
  · exact hrest
  · exact hrest
  · refine hrest.bind (fun _ _ h => h) fun response before hbefore => logs_pure fun hown => ?_
    rw [List.append_nil]
    exact hbefore hown
  · exact hpure _
  · cases reject
    · exact hrest
    · exact hpure _
  · exact hpure _

/-- A login fails with what its rotation fails with, or else with what its save fails with. -/
theorem logs_succeed (f : FormLogin) (a : Authentication) :
    Logs (First own) (f.succeed a : Flow σ Response) (f.succeed a) := by
  refine logs_ask logs_rotateSession (logs_update (fun _ => rfl) (logs_ask logs_saveContext ?_))
  exact logs_pure fun _ => rfl

theorem logs_metrics [Clocked σ] (n : Nat) (hrest : Logs (First own) rest rest') :
    Logs (First own) (runMetrics ⟨n, rest⟩) (runMetrics ⟨n, rest'⟩) := by
  intro p log
  obtain ⟨failures, hrun, hfirst⟩ := hrest p log
  refine ⟨failures, ?_, hfirst⟩
  simp only [runMetrics, Steps.bind_apply, Flow.now, Flow.outcome, hrun, Steps.modify_apply, resume]
  rfl

theorem logs_httpBasic (n : Nat) (hrest : Logs (First own) rest rest') (realm : String) (users : Users) :
    Logs (First own) (HttpBasic.run realm users ⟨n, rest⟩) (HttpBasic.run realm users ⟨n, rest'⟩) := by
  intro p log
  rw [HttpBasic.run_eq, HttpBasic.run_eq]
  simp only [Passage.logged, Exchange.logged_toVisit]
  rcases HttpBasic.verdict users p.exchange.request with _ | _ | a
  · exact hrest p log
  · exact ⟨[], by rw [List.append_nil], fun _ => rfl⟩
  · exact hrest { p with exchange := p.exchange.authenticate a } log

theorem logs [Clocked σ] (n : Nat) (hrest : Logs (First own) rest rest') (stage : Stage σ)
    (hown : own → stage.isOwn = true) :
    Logs (First own) (stage.run ⟨n, rest⟩) (stage.logged.run ⟨n, rest'⟩) := by
  have hpure (response : Response) :
      Logs (First own) (pure response : Flow σ Response) (pure response) := logs_pure fun _ => rfl
  induction stage with
  | tracing => exact hrest
  | metrics => exact logs_metrics n hrest
  | cors source reject =>
    exact logs_request fun r => logs_update (fun _ => rfl) (logs_follow n hrest _ reject)
  | autoSave repository => exact logs_autoSave n hrest repository
  | explicitSave repository => exact logs_explicitSave n hrest repository
  | formLogin settings users =>
    refine logs_request fun r => ?_
    rw [FormLogin.submit_eq, FormLogin.submit_eq]
    split
    · exact hpure _
    split
    · cases settings.verdict users r with
      | none => exact hpure _
      | some a => exact logs_succeed settings a
    · exact hrest
  | httpBasic realm users => exact logs_httpBasic n hrest realm users
  | anonymous => exact logs_update (fun e => by rw [Exchange.logged_context]; split <;> rfl) hrest
  | authorization rules entry =>
    refine logs_look fun e => ?_
    rw [Exchange.logged_toVisit, Exchange.logged_context]
    split
    · exact hrest
    · split <;> exact hpure _
  | custom name code =>
    refine (code.logs (hrest.mono fun _ _ _ => trivial) n).mono fun _ _ _ h => ?_
    cases hown h
  | entered note inner ih =>
    exact fun p log => (ih fun h => by cases hown h) { p with backend := note p.backend } log

end Stage

theorem Flow.logs_logged (handler : Flow σ Response) : Logs (First own) handler handler.logged := by
  intro p log
  refine ⟨(Failure.of? (handler p).1).toList, by rw [Flow.logged, Passage.unlogged_logged]; rfl, fun _ => ?_⟩
  cases Failure.of? (handler p).1 <;> rfl

variable [Clocked σ] (handler : Flow σ Response)

theorem Pipeline.logs {stages : List (Stage σ)} (hown : own → ∀ stage ∈ stages, stage.isOwn = true) :
    Logs (First own) (Pipeline.run handler stages) (Pipeline.run handler.logged (stages.map (·.logged))) := by
  induction stages with
  | nil => exact handler.logs_logged
  | cons stage rest ih =>
    have hrest := Stage.logs rest.length (ih fun h => (List.forall_mem_cons.1 (hown h)).2) stage
      fun h => (List.forall_mem_cons.1 (hown h)).1
    rw [List.map_cons, Pipeline.run, Pipeline.run, List.length_map]
    exact hrest

theorem Guard.logs {g : Guard σ} (hown : own → ∀ c ∈ g.chains, ∀ stage ∈ c.stages, stage.isOwn = true) :
    Logs (First own) (g.execute handler) (g.logged.execute handler.logged) := by
  refine logs_request fun r => ?_
  have hchain : g.logged.chainFor? r.path = (g.chainFor? r.path).map (·.logged) := List.find?_map
  rw [hchain]
  cases hc : g.chainFor? r.path with
  | none => exact handler.logs_logged
  | some c => exact Pipeline.logs handler fun h => hown h c (List.mem_of_find?_eq_some hc)

end Stages

/-! ## Guards -/

namespace Guard

section

variable [Clocked σ] {g : Guard σ} (handler : Flow σ Response)

/-- With a log a guard does what it does without. -/
theorem execute_logged (g : Guard σ) (p : Passage σ) : g.logged.execute handler.logged (p.logged []) =
    ((g.execute handler p).1, (g.execute handler p).2.logged (g.failures handler p)) := by
  obtain ⟨failures, hrun, -⟩ := Guard.logs (g := g) handler (fun h : False => h.elim) p []
  have hfailures : g.failures handler p = failures := by rw [Guard.failures, hrun]; rfl
  rw [hrun, hfailures, List.nil_append]

/-- **The first failure is told of.** The library's own stages fail exactly where a repository or the handler has
failed, and with what has failed first; and so `serve` answers for them exactly there. -/
theorem first_failure_reported (hown : ∀ c ∈ g.chains, ∀ stage ∈ c.stages, stage.isOwn = true) :
    (∀ p, g.logged.execute handler.logged (p.logged []) =
        ((g.execute handler p).1, (g.execute handler p).2.logged (g.failures handler p)) ∧
      Failure.of? (g.execute handler p).1 = (g.failures handler p).head?) ∧
    ∀ r d, match g.failures handler (g.enter r d) with
      | [] => ∃ response, (g.handle handler r d).1 = .ok response ∧ (g.serve handler r d).1 = response
      | first :: _ => (g.handle handler r d).1 = .error first ∧
          (g.serve handler r d).1 = (g.runRequest handler r d).2.1.finish internalError := by
  have hfirst (p : Passage σ) : Failure.of? (g.execute handler p).1 = (g.failures handler p).head? := by
    obtain ⟨failures, hrun, hfirst⟩ := Guard.logs handler (fun _ : True => hown) p []
    rw [Guard.failures, hrun]
    exact hfirst trivial
  refine ⟨fun p => ⟨execute_logged handler g p, hfirst p⟩, fun r d => ?_⟩
  have hr := hfirst (g.enter r d)
  have hrun : g.runRequest handler r d = ((g.execute handler (g.enter r d)).1,
      (g.execute handler (g.enter r d)).2.exchange,
      ⟨(g.execute handler (g.enter r d)).2.metrics, (g.execute handler (g.enter r d)).2.backend⟩) := rfl
  rw [handle, serve, hrun]
  generalize g.execute handler (g.enter r d) = run at hr
  rcases run with ⟨e | response, q⟩ <;> cases hlist : g.failures handler (g.enter r d) <;>
    simp_all [Failure.of?, Except.map, Except.toOption]

end

/-! ## Two failures in one request -/

/-- A repository that has no room for contexts. -/
def fullRepository : Repository Sessions :=
  { Repository.none with save := fun _ => throw ⟨"null", "full"⟩ }

/-- A guard that saves there after each request. -/
def savingToFull : Guard Sessions :=
  ⟨[{ Chain.basicOnly with stages := [.metrics, .autoSave fullRepository, .anonymous] }]⟩

/-- A handler that gives up. -/
def givesUp : Flow Sessions Response :=
  throw (.handler "gave up")

/-- The handler gives up, and then the context cannot be saved; the handler's failure is told of. -/
theorem first_failure_reported_of_two :
    (∀ c ∈ savingToFull.chains, ∀ stage ∈ c.stages, stage.isOwn = true) ∧
      savingToFull.failures givesUp (savingToFull.enter .ofAnn newDesk) =
        [.handler "gave up", .repository ⟨"null", "full"⟩] ∧
      (savingToFull.handle givesUp .ofAnn newDesk).1 = .error (.handler "gave up") ∧
      (savingToFull.serve givesUp .ofAnn newDesk).1 = internalError := by
  have hown : ∀ c ∈ savingToFull.chains, ∀ stage ∈ c.stages, stage.isOwn = true := by
    simp [savingToFull, Stage.isOwn]
  have hfailures : savingToFull.failures givesUp (savingToFull.enter .ofAnn newDesk) =
      [.handler "gave up", .repository ⟨"null", "full"⟩] := by decide +kernel
  have hreported := (first_failure_reported givesUp hown).2 .ofAnn newDesk
  rw [hfailures] at hreported
  refine ⟨hown, hfailures, hreported.1, hreported.2.trans ?_⟩
  rfl

end Guard

end Portcullis
