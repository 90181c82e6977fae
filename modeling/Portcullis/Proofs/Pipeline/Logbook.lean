import Portcullis.Proofs.Pipeline.Effects

/-!
# A log of failures

While a request passes through a guard, loads, saves and rotations of repositories may fail, and so may the handler. To
see all that has failed, also what nobody is told of, the guard is run once more with a log beside the state
(`Guard.logged`): every repository notes there what it fails with, at the moment it fails, and so does the handler.

* `Guard.failures`: what fails while a request passes through a guard.
* `Flow.Logs`: a step, and the same step with a log. Its rules (`Flow.Logs.bind`, `Flow.logs_look` and the like) follow
  the steps that stages are made of.
-/

namespace Portcullis

variable {σ α β : Type}

/-- The failure that a result tells of, if it does. -/
def Failure.of? : Except Failure α → Option Failure
  | .ok _ => none
  | .error failure => some failure

theorem Failure.of?_eq_some_iff {α : Type} {outcome : Except Failure α} {failure : Failure} :
    Failure.of? outcome = some failure ↔ outcome = .error failure := by
  cases outcome with
  | ok a => simp [of?]
  | error failure' => simp [of?]

/-- What a repository that comes to a result has failed with. -/
def RepositoryError.noted (result : Except RepositoryError α) : List Failure :=
  (Failure.of? (result.mapError .repository)).toList

@[simp] theorem RepositoryError.noted_ok (a : α) : noted (.ok a) = [] := rfl

/-- A state, and what has failed so far, in order. -/
structure Logbook (σ : Type) where
  state : σ
  failures : List Failure := []

instance [Clocked σ] : Clocked (Logbook σ) := ⟨fun s => Clocked.now s.state⟩

/-! ## The same with a log -/

/-- The operation, which notes what it fails with. -/
def Op.logged (op : Op σ α) : Op (Logbook σ) α :=
  fun s => ((op s.state).1, ⟨(op s.state).2, s.failures ++ RepositoryError.noted (op s.state).1⟩)

/-- The operation without the log. -/
def Op.unlogged (op : Op (Logbook σ) α) : Op σ α :=
  fun s => ((op ⟨s, []⟩).1, (op ⟨s, []⟩).2.state)

/-- The operation on a visit, which notes what it fails with. -/
def VisitOp.logged (op : VisitOp σ α) : VisitOp (Logbook σ) α :=
  fun s =>
    let after := op (s.1, s.2.state)
    (after.1, after.2.1, ⟨after.2.2, s.2.failures ++ RepositoryError.noted after.1⟩)

/-- The operation on a visit without the log. -/
def VisitOp.unlogged (op : VisitOp (Logbook σ) α) : VisitOp σ α :=
  fun s =>
    let after := op (s.1, ⟨s.2, []⟩)
    (after.1, after.2.1, after.2.2.state)

/-- The repository, which notes what it fails with. -/
def Repository.logged (r : Repository σ) : Repository (Logbook σ) where
  name := r.name
  load visit := (r.load visit).logged
  save context := (r.save context).logged
  contains visit := (r.contains visit).logged
  rotate := r.rotate.logged

/-- The repository without the log. -/
def Repository.unlogged (r : Repository (Logbook σ)) : Repository σ where
  name := r.name
  load visit := (r.load visit).unlogged
  save context := (r.save context).unlogged
  contains visit := (r.contains visit).unlogged
  rotate := r.rotate.unlogged

/-- The exchange, with repositories that note what they fail with. -/
def Exchange.logged (e : Exchange σ) : Exchange (Logbook σ) where
  toVisit := e.toVisit
  context := e.context
  state := e.state
  hook := e.hook.map (·.logged)
  repository := e.repository.map (·.logged)
  marks := e.marks
  decision := e.decision

/-- The exchange without the log. -/
def Exchange.unlogged (e : Exchange (Logbook σ)) : Exchange σ where
  toVisit := e.toVisit
  context := e.context
  state := e.state
  hook := e.hook.map (·.unlogged)
  repository := e.repository.map (·.unlogged)
  marks := e.marks
  decision := e.decision

/-- The passage, with what has failed so far. -/
def Passage.logged (p : Passage σ) (failures : List Failure) : Passage (Logbook σ) :=
  ⟨p.exchange.logged, p.metrics, ⟨p.backend, failures⟩⟩

/-- The passage without the log. -/
def Passage.unlogged (p : Passage (Logbook σ)) : Passage σ :=
  ⟨p.exchange.unlogged, p.metrics, p.backend.state⟩

/-- The handler, which notes what it fails with. -/
def Flow.logged (handler : Flow σ Response) : Flow (Logbook σ) Response :=
  fun p => ((handler p.unlogged).1,
    (handler p.unlogged).2.logged (p.backend.failures ++ (Failure.of? (handler p.unlogged).1).toList))

/-- The program, on a state with a log. -/
def Program.logged : Program σ → Program (Logbook σ)
  | .answer response => .answer response
  | .fail failure => .fail failure
  | .look next => .look fun e => (next e.unlogged).logged
  | .ahead next => .ahead fun n => (next n).logged
  | .touch f next => .touch (fun s => { s with state := f s.state }) fun s => (next s.state).logged
  | .authenticate a next => .authenticate a next.logged
  | .clear next => .clear next.logged
  | .save next => .save fun saved => (next saved).logged
  | .rotate next => .rotate fun rotated => (next rotated).logged
  | .bind id next => .bind id next.logged
  | .queue name value next => .queue name value next.logged
  | .mark name next => .mark name fun isNew => (next isNew).logged
  | .pass next => .pass fun outcome => (next outcome).logged

/-- The stage, with a repository that notes what it fails with. -/
def Stage.logged : Stage σ → Stage (Logbook σ)
  | .tracing => .tracing
  | .metrics => .metrics
  | .cors source reject => .cors source reject
  | .autoSave repository => .autoSave repository.logged
  | .explicitSave repository => .explicitSave repository.logged
  | .formLogin settings users => .formLogin settings users
  | .httpBasic realm users => .httpBasic realm users
  | .anonymous => .anonymous
  | .authorization rules entry => .authorization rules entry
  | .custom name code => .custom name code.logged
  | .entered note inner => .entered (fun s => { s with state := note s.state }) inner.logged

/-- The chain, with stages that keep a log. -/
def Chain.logged (c : Chain σ) : Chain (Logbook σ) :=
  ⟨c.matcher, c.stages.map (·.logged), c.cookieName⟩

/-- The guard, with chains that keep a log. -/
def Guard.logged (g : Guard σ) : Guard (Logbook σ) :=
  ⟨g.chains.map (·.logged)⟩

/-- What fails while a request passes through the guard, in order. -/
def Guard.failures [Clocked σ] (g : Guard σ) (handler : Flow σ Response) (p : Passage σ) : List Failure :=
  (g.logged.execute handler.logged (p.logged [])).2.backend.failures

@[simp] theorem Repository.unlogged_logged (r : Repository σ) : r.logged.unlogged = r := rfl

namespace Exchange

variable (e : Exchange σ)

@[simp] theorem unlogged_logged : e.logged.unlogged = e := by
  simp [logged, unlogged, Function.comp_def]

@[simp] theorem logged_toVisit : e.logged.toVisit = e.toVisit := rfl
@[simp] theorem logged_context : e.logged.context = e.context := rfl
@[simp] theorem logged_hook : e.logged.hook = e.hook.map (·.logged) := rfl
@[simp] theorem logged_repository : e.logged.repository = e.repository.map (·.logged) := rfl
@[simp] theorem logged_isMarked (name : String) : e.logged.isMarked name = e.isMarked name := rfl

theorem logged_mark (name : String) : (e.mark name).logged = e.logged.mark name := by
  rw [mark, mark, logged_isMarked]
  split <;> rfl

end Exchange

@[simp] theorem Passage.unlogged_logged (p : Passage σ) (failures : List Failure) :
    (p.logged failures).unlogged = p := by
  simp [logged, unlogged]

/-! ## Steps beside steps with a log -/

namespace Flow

/-- The second step does what the first one does, and besides notes what fails, as `post` says of result and notes. -/
def Logs (post : Except Failure α → List Failure → Prop) (f : Flow σ α) (f' : Flow (Logbook σ) α) : Prop :=
  ∀ p log, ∃ failures, f' (p.logged log) = ((f p).1, (f p).2.logged (log ++ failures)) ∧ post (f p).1 failures

/-- On the condition, the result tells of what has been noted first, and of nothing if nothing has been noted. -/
def First (condition : Prop) (result : Except Failure α) (failures : List Failure) : Prop :=
  condition → Failure.of? result = failures.head?

variable {post mid : Except Failure α → List Failure → Prop} {f : Flow σ α} {f' : Flow (Logbook σ) α}

theorem Logs.mono (h : Logs mid f f') (hpost : ∀ result failures, mid result failures → post result failures) :
    Logs post f f' := by
  intro p log
  obtain ⟨failures, hrun, hmid⟩ := h p log
  exact ⟨failures, hrun, hpost _ _ hmid⟩

theorem logs_pure {a : α} (h : post (.ok a) []) : Logs post (pure a : Flow σ α) (pure a) :=
  fun p log => ⟨[], by simp, h⟩

theorem logs_resume {result : Except Failure α} (h : post result []) :
    Logs post (resume result : Flow σ α) (resume result) :=
  fun p log => ⟨[], by simp [resume], h⟩

/-- The second step is taken where the first one answers. -/
theorem Logs.bind {post : Except Failure β → List Failure → Prop} {g : α → Flow σ β} {g' : α → Flow (Logbook σ) β}
    (hf : Logs mid f f') (hfail : ∀ e failures, mid (.error e) failures → post (.error e) failures)
    (hg : ∀ a before, mid (.ok a) before →
      Logs (fun result failures => post result (before ++ failures)) (g a) (g' a)) :
    Logs post (f >>= g) (f' >>= g') := by
  intro p log
  obtain ⟨before, hrun, hmid⟩ := hf p log
  rw [Steps.bind_apply, Steps.bind_apply, hrun]
  rcases hresult : f p with ⟨e | a, q⟩ <;> rw [hresult] at hmid
  · exact ⟨before, rfl, hfail e before hmid⟩
  · obtain ⟨failures, hrun', hpost⟩ := hg a before hmid q (log ++ before)
    exact ⟨before ++ failures, by rw [← List.append_assoc]; exact hrun', hpost⟩

/-- Where it does not matter what is noted. -/
theorem Logs.bind_any {g : α → Flow σ β} {g' : α → Flow (Logbook σ) β} (hf : Logs mid f f')
    (hg : ∀ a, Logs (fun _ _ => True) (g a) (g' a)) : Logs (fun _ _ => True) (f >>= g) (f' >>= g') :=
  hf.bind (fun _ _ _ => trivial) fun a _ _ => hg a

/-- What is seen of the exchange is the same, but for the logs of its repositories. -/
theorem logs_look {g : Exchange σ → Flow σ α} {g' : Exchange (Logbook σ) → Flow (Logbook σ) α}
    (h : ∀ e, Logs post (g e) (g' e.logged)) : Logs post (exchange >>= g) (exchange >>= g') := by
  intro p log
  simp only [Steps.bind_apply, exchange]
  exact h p.exchange p log

theorem logs_request {g : Request → Flow σ α} {g' : Request → Flow (Logbook σ) α}
    (h : ∀ r, Logs post (g r) (g' r)) : Logs post (request >>= g) (request >>= g') := by
  intro p log
  simp only [Steps.bind_apply, request]
  exact h p.exchange.request p log

/-- What is done to the exchange is the same, but for the logs of its repositories. -/
theorem logs_update {u : Exchange σ → Exchange σ} {u' : Exchange (Logbook σ) → Exchange (Logbook σ)}
    (hu : ∀ e, u' e.logged = (u e).logged) (h : Logs post f f') :
    Logs post (update u >>= fun _ => f) (update u' >>= fun _ => f') := by
  intro p log
  obtain ⟨failures, hrun, hpost⟩ := h { p with exchange := u p.exchange } log
  refine ⟨failures, ?_, by rw [Steps.bind_apply]; exact hpost⟩
  rw [Steps.bind_apply, Steps.bind_apply, update, update]
  simp only [Passage.logged] at hrun ⊢
  rw [hu]
  exact hrun

/-- A result that is handed over instead of failing. -/
theorem Logs.outcome (h : Logs post f f') :
    Logs (fun result failures => ∃ outcome, result = .ok outcome ∧ post outcome failures) (outcome f) (outcome f') := by
  intro p log
  obtain ⟨failures, hrun, hpost⟩ := h p log
  exact ⟨failures, by rw [Flow.outcome, hrun]; rfl, (f p).1, rfl, hpost⟩

/-! ## What repositories do -/

/-- Nothing fails but what the result tells of. -/
def Told (result : Except Failure (Except RepositoryError α)) (failures : List Failure) : Prop :=
  ∃ answer, result = .ok answer ∧ failures = RepositoryError.noted answer

theorem logs_onVisit (op : VisitOp σ α) : Logs Told (onVisit op) (onVisit op.logged) :=
  fun _ _ => ⟨_, rfl, _, rfl, rfl⟩

theorem logs_loadContext (condition : Prop) (r : Repository σ) :
    Logs (First condition) (loadContext r) (loadContext r.logged) := by
  intro p log
  refine ⟨RepositoryError.noted (r.load p.exchange.toVisit p.backend).1, ?_, fun _ => ?_⟩ <;>
    rw [loadContext_apply]
  · rw [loadContext_apply]
    simp only [Passage.logged, Repository.logged, Op.logged, Exchange.logged_toVisit]
    rcases r.load p.exchange.toVisit p.backend with ⟨e | context, s⟩ <;> rfl
  · rcases r.load p.exchange.toVisit p.backend with ⟨e | context, s⟩ <;> rfl

theorem logs_rotateSession : Logs Told (rotateSession : Flow σ _) rotateSession := by
  refine logs_look fun e => ?_
  rw [Exchange.logged_repository]
  cases e.repository with
  | none => exact logs_pure ⟨_, rfl, rfl⟩
  | some r => exact logs_onVisit r.rotate

theorem logs_saveContext : Logs Told (saveContext : Flow σ _) saveContext := by
  refine logs_look fun e => ?_
  rw [Exchange.logged_hook, Exchange.logged_context]
  cases e.hook with
  | none => exact logs_pure ⟨_, rfl, rfl⟩
  | some r =>
    refine (logs_onVisit (r.save e.context)).bind ?_ ?_
    · rintro _ _ ⟨_, ⟨⟩, _⟩
    · rintro (error | _) _ ⟨_, ⟨⟩, rfl⟩
      · exact logs_pure ⟨_, rfl, rfl⟩
      · exact logs_update (fun _ => rfl) (logs_pure ⟨_, rfl, rfl⟩)

/-- A repository is asked for something, and the step fails with what the repository fails with. -/
theorem logs_ask {condition : Prop} {f : Flow σ (Except RepositoryError α)}
    {f' : Flow (Logbook σ) (Except RepositoryError α)} {g : Flow σ β} {g' : Flow (Logbook σ) β}
    (hf : Logs Told f f') (hg : Logs (First condition) g g') :
    Logs (First condition) (do discard (orFail (← f)); g) (do discard (orFail (← f')); g') := by
  refine hf.bind (by rintro _ _ ⟨_, ⟨⟩, _⟩) ?_
  rintro (error | a) _ ⟨_, ⟨⟩, rfl⟩ p log
  · exact ⟨[], by simp [orFail_apply, Except.map], fun _ => by simp [orFail_apply, Except.map]; rfl⟩
  · simpa [orFail_apply, Except.map] using hg p log

end Flow

end Portcullis
