import Portcullis.Proofs.Guard.Hosting
import Portcullis.Proofs.Pipeline.Effects
import Portcullis.Proofs.Session.Pairing

/-!
# Pipelines that serve one client, alone or among others

A request passes through the same pipeline twice: over a store of sessions that is shared with other clients, and over
one that is there for its client alone. As long as the host is discreet, that is, neither looks behind the pipeline nor
binds an exchange to a session of its own choice, the exchange is the same from stage to stage, and so is the outcome
(`Pipeline.echoes`).

* `Sessions.Pairing.passages`: the passages that are compared.
* `Flow.echoes_loadContext` and the like: the steps that stages and programs are made of.
* `Stage.Discreet.echoes`: one stage.
-/

namespace Portcullis

variable {σ α β : Type}

/-! ## Discreet hosts -/

section Hosts

variable (view : σ → Sessions)

/-- Nothing is done to the sessions. -/
def SparesSessions (f : σ → σ) : Prop :=
  ∀ s, view (f s) = view s

/-- The program does not look behind the pipeline, and binds the exchange to no session of its own choice. It may do
everything else that an exchange offers, save the context and give the session a new id included. -/
inductive Program.Discreet : Program σ → Prop
  | answer (response : Response) : Discreet (.answer response)
  | fail (failure : Failure) : Discreet (.fail failure)
  | look {next : Exchange σ → Program σ} (h : ∀ e, Discreet (next e)) : Discreet (.look next)
  | ahead {next : Nat → Program σ} (h : ∀ n, Discreet (next n)) : Discreet (.ahead next)
  | touch {f : σ → σ} {next : Program σ} (hf : SparesSessions view f) (h : Discreet next) :
    Discreet (.touch f fun _ => next)
  | authenticate (a : Authentication) {next : Program σ} (h : Discreet next) : Discreet (.authenticate a next)
  | clear {next : Program σ} (h : Discreet next) : Discreet (.clear next)
  | save {next : Except RepositoryError Bool → Program σ} (h : ∀ saved, Discreet (next saved)) : Discreet (.save next)
  | rotate {next : Except RepositoryError Bool → Program σ} (h : ∀ rotated, Discreet (next rotated)) :
    Discreet (.rotate next)
  | queue (name value : String) {next : Program σ} (h : Discreet next) : Discreet (.queue name value next)
  | mark (name : String) {next : Bool → Program σ} (h : ∀ b, Discreet (next b)) : Discreet (.mark name next)
  | pass {next : Except Failure Response → Program σ} (h : ∀ outcome, Discreet (next outcome)) : Discreet (.pass next)

/-- The handler is a discreet program. -/
def Flow.Discreet (handler : Flow σ Response) : Prop :=
  ∃ code : Program σ, code.Discreet view ∧ handler = code.handle

/-- The stage is one of the library's own, over this store, or a discreet program. -/
inductive Stage.Discreet (store : Store σ) : Stage σ → Prop
  | tracing : Discreet store .tracing
  | metrics : Discreet store .metrics
  | cors (source : Cors.Source) (reject : RejectPolicy) : Discreet store (.cors source reject)
  | autoSave {repository : Repository σ} (h : repository.Over store) : Discreet store (.autoSave repository)
  | explicitSave {repository : Repository σ} (h : repository.Over store) : Discreet store (.explicitSave repository)
  | formLogin (settings : FormLogin) (users : Users) : Discreet store (.formLogin settings users)
  | httpBasic (realm : String) (users : Users) : Discreet store (.httpBasic realm users)
  | anonymous : Discreet store .anonymous
  | authorization (rules : List Rule) (entry : EntryPoint) : Discreet store (.authorization rules entry)
  | custom (name : String) {code : Program σ} (h : code.Discreet view) : Discreet store (.custom name code)
  | entered {note : σ → σ} {inner : Stage σ} (hnote : SparesSessions view note) (h : Discreet store inner) :
    Discreet store (.entered note inner)

end Hosts

/-! ## The passages that are compared -/

/-- The repositories at hand keep contexts in the sessions of this store, or nowhere. -/
structure Exchange.Over (store : Store σ) (e : Exchange σ) : Prop where
  hook : ∀ r, e.hook = some r → r.Over store
  repository : ∀ r, e.repository = some r → r.Over store

/-- The same exchange, over the two stores. What is counted may differ. -/
def Sessions.Pairing.passages (P : Sessions.Pairing) (view : σ → Sessions) (store : Store σ) :
    Comparison (Passage σ) where
  fit p := p.exchange.Over store
  used p := (view p.backend).issued
  limit := P.limit
  alike p q := p.exchange.Over store ∧ q.exchange = p.exchange ∧ P.Own p.exchange.session ∧
    P.Echo (view p.backend) (view q.backend)
  fit_of_alike h := h.1

variable {P : Sessions.Pairing} {view : σ → Sessions} {store : Store σ} {proviso : Prop} {post : β → Prop}

/-! ## Repositories -/

namespace Repository.Over

variable {r : Repository σ} (h : r.Over store) (hstore : store.Prompt view)
include h hstore

theorem load_echoes (visit : Visit) :
    (P.visits view).Echoes (P.Own visit.session) (r.load visit).inVisit fun _ => True := by
  cases h with
  | inSession allow always => exact Repository.load_echoes hstore allow always visit
  | none => exact Comparison.echoes_pure fun _ => trivial

theorem save_echoes (c : SecurityContext) : (P.visits view).Echoes True (r.save c) fun _ => True := by
  cases h with
  | inSession allow always => exact Repository.save_echoes hstore allow always c
  | none => exact Comparison.echoes_pure fun _ => trivial

theorem rotate_echoes : (P.visits view).Echoes True r.rotate fun _ => True := by
  cases h with
  | inSession allow always => exact Repository.rotate_echoes hstore allow always
  | none => exact Comparison.echoes_pure fun _ => trivial

end Repository.Over

/-! ## Steps -/

namespace Flow

/-- Whatever is read off the exchange, it is the same both times, and it does not name a session of others. -/
theorem echoes_look_own {next : Exchange σ → Flow σ β}
    (h : ∀ e, e.Over store → (P.passages view store).Echoes (P.Own e.session) (next e) post) :
    (P.passages view store).Echoes proviso (exchange >>= next) post where
  keeps p hp := (h p.exchange hp).keeps p hp
  echo _ p q hpq hlimit := by
    have hecho := (h p.exchange hpq.1).echo hpq.2.2.1 p q hpq hlimit
    show (next q.exchange q).1 = _ ∧ (P.passages view store).alike _ (next q.exchange q).2 ∧ _
    rw [hpq.2.1]
    exact hecho

theorem echoes_look {next : Exchange σ → Flow σ β}
    (h : ∀ e, e.Over store → (P.passages view store).Echoes True (next e) post) :
    (P.passages view store).Echoes True (exchange >>= next) post :=
  echoes_look_own fun e he => (h e he).mono (fun _ => trivial) fun _ hb => hb

theorem echoes_request {next : Request → Flow σ β} (h : ∀ r, (P.passages view store).Echoes True (next r) post) :
    (P.passages view store).Echoes True (request >>= next) post := by
  have hnext : ∀ e : Exchange σ, e.Over store → (P.passages view store).Echoes True (next e.request) post :=
    fun e _ => h e.request
  exact echoes_look hnext

theorem echoes_update {f : Exchange σ → Exchange σ} (hover : ∀ e, e.Over store → (f e).Over store)
    (hsession : ∀ e, (f e).session = e.session) :
    (P.passages view store).Echoes proviso (update f) fun _ => True where
  keeps p hp := ⟨hover p.exchange hp, Nat.le_refl _⟩
  echo _ p q hpq _ := by
    refine ⟨rfl, ⟨hover _ hpq.1, congrArg f hpq.2.1, ?_, hpq.2.2.2⟩, fun _ _ => trivial⟩
    show P.Own (f p.exchange).session
    rw [hsession]
    exact hpq.2.2.1

theorem echoes_mark (name : String) :
    (P.passages view store).Echoes proviso (update (·.mark name)) fun _ => True :=
  echoes_update (fun e h => ⟨by simpa using h.hook, by simpa using h.repository⟩)
    fun e => congrArg Visit.session (e.mark_toVisit name)

theorem echoes_resume (result : Except Failure α) :
    (P.passages view store).Echoes proviso (resume result : Flow σ α) fun _ => True where
  keeps _ hp := ⟨hp, Nat.le_refl _⟩
  echo _ _ _ hpq _ := ⟨rfl, hpq, fun _ _ => trivial⟩

theorem echoes_outcome {step : Flow σ α} {post : α → Prop} (h : (P.passages view store).Echoes proviso step post) :
    (P.passages view store).Echoes proviso (outcome step) fun _ => True where
  keeps := h.keeps
  echo hp p q hpq hlimit := by
    obtain ⟨hresult, halike, -⟩ := h.echo hp p q hpq hlimit
    exact ⟨congrArg Except.ok hresult, halike, fun _ _ => trivial⟩

/-- What is done behind the pipeline by a repository that leaves the visit alone. -/
theorem echoes_touch {op : Op σ α} {post : α → Prop} (h : (P.visits view).Echoes proviso op.inVisit post) :
    (P.passages view store).Echoes proviso (touch op) fun _ => True where
  keeps p hp := ⟨hp, (h.keeps (p.exchange.toVisit, p.backend) trivial).2⟩
  echo hp p q hpq hlimit := by
    obtain ⟨hover, hexchange, hown, hecho⟩ := hpq
    obtain ⟨hresult, ⟨-, -, hecho'⟩, -⟩ := h.echo hp (p.exchange.toVisit, p.backend) (p.exchange.toVisit, q.backend)
      ⟨rfl, hown, hecho⟩ hlimit
    exact ⟨congrArg Except.ok hresult, ⟨hover, hexchange, hown, hecho'⟩, fun _ _ => trivial⟩

theorem echoes_onVisit {op : VisitOp σ α} {post : α → Prop} (h : (P.visits view).Echoes proviso op post) :
    (P.passages view store).Echoes proviso (onVisit op) fun _ => True where
  keeps p hp := ⟨⟨hp.hook, hp.repository⟩, (h.keeps (p.exchange.toVisit, p.backend) trivial).2⟩
  echo hp p q hpq hlimit := by
    obtain ⟨hover, hexchange, hown, hecho⟩ := hpq
    obtain ⟨hresult, ⟨hvisit, hown', hecho'⟩, -⟩ := h.echo hp (p.exchange.toVisit, p.backend)
      (p.exchange.toVisit, q.backend) ⟨rfl, hown, hecho⟩ hlimit
    rw [onVisit_apply, onVisit_apply, hexchange]
    refine ⟨congrArg Except.ok hresult, ⟨⟨hover.hook, hover.repository⟩, ?_, hown', hecho'⟩, fun _ _ => trivial⟩
    simp only [Passage.revisit, hvisit, hexchange]

theorem echoes_spares {f : σ → σ} {g : σ → α} (hf : SparesSessions view f) {next : Flow σ β}
    (h : (P.passages view store).Echoes proviso next post) :
    (P.passages view store).Echoes proviso (touch (fun s => (g s, f s)) >>= fun _ => next) post where
  keeps p hp := by
    have hkept := h.keeps { p with backend := f p.backend } hp
    refine ⟨hkept.1, ?_⟩
    show (view p.backend).issued ≤ _
    rw [← hf p.backend]
    exact hkept.2
  echo hp p q hpq hlimit := by
    refine h.echo hp { p with backend := f p.backend } { q with backend := f q.backend }
      ⟨hpq.1, hpq.2.1, hpq.2.2.1, ?_⟩ hlimit
    show P.Echo (view (f p.backend)) (view (f q.backend))
    rw [hf, hf]
    exact hpq.2.2.2

theorem echoes_orFail (result : Except RepositoryError α) :
    (P.passages view store).Echoes proviso (orFail result : Flow σ α) fun _ => True :=
  echoes_resume _

section Context

variable (hstore : store.Prompt view)
include hstore

theorem echoes_loadContext {r : Repository σ} (hr : r.Over store) :
    (P.passages view store).Echoes True (loadContext r) fun _ => True := by
  refine echoes_look_own fun e _ => .andThen (echoes_touch (hr.load_echoes hstore e.toVisit)) fun result => ?_
  refine .andThen (echoes_orFail result) fun context => ?_
  exact echoes_update (fun e h => ⟨h.hook, fun r' h' => by cases h'; exact hr⟩) fun _ => rfl

theorem echoes_saveContext : (P.passages view store).Echoes True saveContext fun _ => True := by
  refine echoes_look fun e he => ?_
  split
  · exact Comparison.echoes_pure fun _ => trivial
  · rename_i r hr
    refine .andThen (echoes_onVisit ((he.hook r hr).save_echoes hstore e.context)) fun result => ?_
    split
    · exact Comparison.echoes_pure fun _ => trivial
    · exact .andThen (echoes_update (fun e h => ⟨h.hook, h.repository⟩) fun _ => rfl) fun _ =>
        Comparison.echoes_pure fun _ => trivial

theorem echoes_rotateSession : (P.passages view store).Echoes True rotateSession fun _ => True := by
  refine echoes_look fun e he => ?_
  split
  · exact Comparison.echoes_pure fun _ => trivial
  · rename_i r hr
    exact echoes_onVisit ((he.repository r hr).rotate_echoes hstore)

end Context

end Flow

/-! ## Stages -/

section Stages

open Portcullis.Flow

/-- Setting the context leaves the repositories at hand alone. -/
theorem Exchange.Over.setContext {e : Exchange σ} (h : e.Over store) (context : SecurityContext) :
    Over store { e with context } :=
  ⟨h.hook, h.repository⟩

variable (hstore : store.Prompt view)
include hstore

theorem Program.Discreet.echoes {code : Program σ} (hcode : code.Discreet view) {rest : Ahead σ}
    (hrest : (P.passages view store).Echoes True rest.run fun _ => True) :
    (P.passages view store).Echoes True (code.run rest) fun _ => True := by
  induction hcode with
  | answer response => exact Comparison.echoes_pure fun _ => trivial
  | fail failure => exact Comparison.echoes_throw failure
  | look h ih => exact echoes_look fun e _ => ih e
  | ahead h ih => exact ih rest.stages
  | touch hf h ih => exact echoes_spares hf ih
  | authenticate a h ih => exact .andThen (echoes_update (fun _ h => h.setContext _) fun _ => rfl) fun _ => ih
  | clear h ih => exact .andThen (echoes_update (fun _ h => h.setContext _) fun _ => rfl) fun _ => ih
  | save h ih => exact .andThen (echoes_saveContext hstore) ih
  | rotate h ih => exact .andThen (echoes_rotateSession hstore) ih
  | queue name value h ih =>
    exact .andThen (echoes_update (fun _ h => ⟨h.hook, h.repository⟩) fun _ => rfl) fun _ => ih
  | mark name h ih => exact echoes_look fun e _ => .andThen (echoes_mark name) fun _ => ih (!e.isMarked name)
  | pass h ih => exact .andThen (echoes_outcome hrest) ih

namespace Stage

variable {rest : Ahead σ} (hrest : (P.passages view store).Echoes True rest.run fun _ => True)

section Rest

include hrest
omit hstore

theorem echoes_once {mark : String} {stage : Flow σ Response}
    (h : (P.passages view store).Echoes True stage fun _ => True) :
    (P.passages view store).Echoes True (once mark rest stage) fun _ => True := by
  refine echoes_look fun e _ => ?_
  split
  · exact hrest
  · exact .andThen (echoes_mark mark) fun _ => h

theorem echoes_cors (source : Cors.Source) (reject : RejectPolicy) :
    (P.passages view store).Echoes True (runCors source reject rest) fun _ => True := by
  refine echoes_request fun r => ?_
  refine .andThen (echoes_update (fun _ h => ⟨h.hook, h.repository⟩) fun _ => rfl) fun _ => ?_
  unfold follow
  split
  · exact hrest
  · exact hrest
  · exact Comparison.echoes_pure fun _ => trivial
  · exact Comparison.echoes_pure fun _ => trivial
  · exact .andThen hrest fun response => Comparison.echoes_pure fun _ => trivial
  · split
    · exact hrest
    · exact Comparison.echoes_pure fun _ => trivial

theorem echoes_httpBasic (realm : String) (users : Users) :
    (P.passages view store).Echoes True (HttpBasic.run realm users rest) fun _ => True := by
  refine echoes_request fun r => ?_
  split
  · exact hrest
  split
  · rw [HttpBasic.check]
    split
    · exact Comparison.echoes_pure fun _ => trivial
    split
    · exact Comparison.echoes_pure fun _ => trivial
    · exact .andThen (echoes_update (fun _ h => h.setContext _) fun _ => rfl) fun _ => hrest
  · exact hrest

theorem echoes_anonymous : (P.passages view store).Echoes True (runAnonymous rest) fun _ => True := by
  refine .andThen (echoes_update (fun e h => ?_) fun e => ?_) fun _ => hrest
  · split
    · exact h.setContext _
    · exact h
  · split <;> rfl

theorem echoes_authorization (rules : List Rule) (entry : EntryPoint) :
    (P.passages view store).Echoes True (Authorization.run rules entry rest) fun _ => True := by
  refine echoes_look fun e _ => ?_
  split
  · exact hrest
  split
  · exact Comparison.echoes_pure fun _ => trivial
  · exact Comparison.echoes_pure fun _ => trivial

end Rest

omit hstore in
theorem echoes_settle (outcome : Except Failure Response) (saved : Except RepositoryError Unit) :
    (P.passages view store).Echoes True (settle outcome saved : Flow σ Response) fun _ => True := by
  have hstate (state : ContextState) : (P.passages view store).Echoes True
      (update fun e => { e with state } : Flow σ Unit) fun _ => True :=
    echoes_update (fun _ h => ⟨h.hook, h.repository⟩) fun _ => rfl
  cases saved with
  | ok u =>
    refine .andThen (hstate .saved) fun _ => ?_
    cases outcome with
    | ok response => exact Comparison.echoes_pure fun _ => trivial
    | error failure => exact Comparison.echoes_throw failure
  | error e =>
    refine .andThen (hstate .discarded) fun _ => ?_
    cases outcome with
    | ok response => exact Comparison.echoes_throw (Failure.repository e)
    | error failure => exact Comparison.echoes_throw failure

theorem echoes_succeed (form : FormLogin) (a : Authentication) :
    (P.passages view store).Echoes True (form.succeed a : Flow σ Response) fun _ => True := by
  refine .andThen (echoes_rotateSession hstore) fun rotated => ?_
  refine .andThen (echoes_orFail rotated).discard fun _ => ?_
  refine .andThen (echoes_update (fun _ h => h.setContext _) fun _ => rfl) fun _ => ?_
  refine .andThen (echoes_saveContext hstore) fun saved => ?_
  exact .andThen (echoes_orFail saved).discard fun _ => Comparison.echoes_pure fun _ => trivial

include hrest

theorem echoes_formLogin (form : FormLogin) (users : Users) :
    (P.passages view store).Echoes True (form.run users rest) fun _ => True := by
  refine echoes_request fun r => ?_
  split
  · exact Comparison.echoes_pure fun _ => trivial
  split
  · rw [FormLogin.submit]
    split
    · exact Comparison.echoes_pure fun _ => trivial
    split
    · exact Comparison.echoes_pure fun _ => trivial
    · exact echoes_succeed hstore form _
  · exact hrest

theorem echoes_autoSave {repository : Repository σ} (h : repository.Over store) :
    (P.passages view store).Echoes True (runAutoSave repository rest) fun _ => True := by
  refine echoes_once hrest (.andThen (echoes_loadContext hstore h) fun _ => ?_)
  refine .andThen (echoes_outcome hrest) fun outcome => echoes_look fun e _ => ?_
  exact .andThen (echoes_onVisit (h.save_echoes hstore e.context)) fun saved => echoes_settle outcome saved

theorem echoes_explicitSave {repository : Repository σ} (h : repository.Over store) :
    (P.passages view store).Echoes True (runExplicitSave repository rest) fun _ => True := by
  refine echoes_once hrest (.andThen (echoes_loadContext hstore h) fun _ => ?_)
  refine .andThen (echoes_update (fun e he => ⟨?_, he.repository⟩) fun _ => rfl) fun _ => ?_
  · rintro _ ⟨⟩
    exact h
  refine .andThen (echoes_outcome hrest) fun outcome => ?_
  exact .andThen (echoes_update (fun e he => ⟨nofun, he.repository⟩) fun _ => rfl) fun _ => echoes_resume outcome

end Stage

variable [Clocked σ]

theorem Stage.Discreet.echoes {stage : Stage σ} (hstage : stage.Discreet view store) {rest : Ahead σ}
    (hrest : (P.passages view store).Echoes True rest.run fun _ => True) :
    (P.passages view store).Echoes True (stage.run rest) fun _ => True := by
  induction hstage with
  | tracing => exact hrest
  | metrics => exact ⟨hrest.keeps, hrest.echo⟩
  | cors source reject => exact echoes_cors hrest source reject
  | autoSave h => exact echoes_autoSave hstore hrest h
  | explicitSave h => exact echoes_explicitSave hstore hrest h
  | formLogin settings users => exact echoes_formLogin hstore hrest settings users
  | httpBasic realm users => exact echoes_httpBasic hrest realm users
  | anonymous => exact echoes_anonymous hrest
  | authorization rules entry => exact echoes_authorization hrest rules entry
  | custom name h => exact h.echoes hstore hrest
  | entered hnote h ih => exact echoes_spares hnote ih

omit [Clocked σ] in
theorem Flow.Discreet.echoes {handler : Flow σ Response} (h : handler.Discreet view) :
    (P.passages view store).Echoes True handler fun _ => True := by
  obtain ⟨code, hcode, rfl⟩ := h
  exact hcode.echoes hstore (Comparison.echoes_throw _)

omit hstore [Clocked σ] in
/-- A handler that does no more than read the exchange, such as the request and the security context. -/
theorem Flow.discreet_reading (f : Exchange σ → Except Failure Response) :
    Flow.Discreet view fun p : Passage σ => (f p.exchange, p) := by
  let conclude : Except Failure Response → Program σ
    | .ok response => .answer response
    | .error failure => .fail failure
  refine ⟨.look fun e => conclude (f e), .look fun e => ?_, funext fun p => ?_⟩
  · cases f e with
    | ok response => exact .answer response
    | error failure => exact .fail failure
  · show _ = (conclude (f p.exchange)).handle p
    cases f p.exchange <;> rfl

theorem Pipeline.echoes {handler : Flow σ Response} (hhandler : handler.Discreet view) {stages : List (Stage σ)}
    (hstages : ∀ stage ∈ stages, stage.Discreet view store) :
    (P.passages view store).Echoes True (Pipeline.run handler stages) fun _ => True := by
  induction stages with
  | nil => exact hhandler.echoes hstore
  | cons stage rest ih =>
    rw [List.forall_mem_cons] at hstages
    exact hstages.1.echoes hstore (ih hstages.2)

end Stages

end Portcullis
