import Portcullis.Proofs.Guard.Layers
import Portcullis.Proofs.Session.Likeness

/-!
# Pipelines side by side

Two pipelines, of which one saves the context after each request and the other leaves saving to form login, are run side
by side on passages that are alike in all but how and whether the context is saved (`Passage.Alike`). Up to the stage
for the security context, and on the way back from there, they are alike (`Passage.Outside`). Behind that stage there is
nothing yet to be saved (`Passage.Inside`); and on the way back to it the passages may differ, as long as saving makes
them alike again (`Passage.Returning`).

* `Flow.Alongside`: two steps that come to the same outcome and lead from passages of one kind to passages of another.
* `Program.LeavesAlone.alongside`, `Stage.LeavesAlone.steady`: what the host adds.
* `Stage.steady_metrics` and the like: the stages in front of the one for the security context.
* `Stage.alongside_context`: the two stages for the security context, one beside the other.
* `Passage.Inside.succeed`: a form login, saved in the one pipeline and not yet saved in the other.
-/

namespace Portcullis

variable {σ τ α : Type}

/-! ## Passages that are alike -/

namespace Exchange

/-- The exchange, apart from how its context is saved, and whether it has been. -/
def outward (e : Exchange σ) : Exchange σ :=
  { e with hook := none, state := .notLoaded }

variable {e e' : Exchange σ}

/-- What has nothing to do with saving can be read off what both exchanges show. -/
theorem eq_of_outward (h : e.outward = e'.outward) : e.toVisit = e'.toVisit ∧ e.context = e'.context ∧
    e.isMarked = e'.isMarked ∧ e.repository = e'.repository := by
  have hvisit : e.outward.toVisit = e'.outward.toVisit := congrArg _ h
  have hcontext : e.outward.context = e'.outward.context := congrArg _ h
  have hmarked : e.outward.isMarked = e'.outward.isMarked := congrArg _ h
  have hrepository : e.outward.repository = e'.outward.repository := congrArg _ h
  exact ⟨hvisit, hcontext, hmarked, hrepository⟩

theorem outward_mark (e : Exchange σ) (name : String) : (e.mark name).outward = e.outward.mark name := by
  have hmarked : e.outward.isMarked name = e.isMarked name := rfl
  rw [mark, mark, hmarked]
  split <;> rfl

end Exchange

section Relations

variable (empties : Prop) (view : σ → Sessions) (other : σ → τ)

/-- The passages are alike in all but how the context is saved, and whether it has been. -/
structure Passage.Alike (p q : Passage σ) : Prop where
  exchange : p.exchange.outward = q.exchange.outward
  metrics : p.metrics = q.metrics
  backend : Akin empties view other p.backend q.backend

/-- Nothing has happened on the way from `p` to `q` that bears on what is to be saved. -/
structure Passage.Beside (p q : Passage σ) : Prop where
  session : q.exchange.session = p.exchange.session
  context : q.exchange.context = p.exchange.context ∨
    p.exchange.context.isPersistable = false ∧ q.exchange.context.isPersistable = false
  hook : q.exchange.hook = p.exchange.hook
  repository : q.exchange.repository = p.exchange.repository
  sessions : view q.backend = view p.backend

/-- On the way to the stage for the security context, and on the way back from there. -/
structure Passage.Outside (repository : Repository σ) (p q : Passage σ) : Prop where
  alike : p.Alike empties view other q
  hook : p.exchange.hook = none
  hook' : q.exchange.hook = none
  repository : p.exchange.repository = none ∨ p.exchange.repository = some repository

/-- On the way on from there: in `p` the context is going to be saved anyway, in `q` where somebody asks for it, and to
save it now would change nothing. -/
structure Passage.Inside (repository : Repository σ) (p q : Passage σ) : Prop where
  alike : p.Alike empties view other q
  hook : p.exchange.hook = none
  hook' : q.exchange.hook = some repository
  repository : p.exchange.repository = some repository
  idle : (view p.backend).Idle p.exchange.session p.exchange.context

/-- On the way back to there: to save the context in `p` makes the passages alike. -/
structure Passage.Returning (repository : Repository σ) (p q : Passage σ) : Prop where
  saved : ∃ visit s, repository.save p.exchange.context (p.exchange.toVisit, p.backend) = (.ok (), (visit, s)) ∧
    (p.revisit (visit, s)).Alike empties view other q
  hook : p.exchange.hook = none
  repository : p.exchange.repository = some repository

/-- From passages of one kind the two steps come to the same outcome, and to passages of the other kind. -/
def Flow.Alongside (before after : Passage σ → Passage σ → Prop) (f g : Flow σ α) : Prop :=
  ∀ p q, before p q → (f p).1 = (g q).1 ∧ after (f p).2 (g q).2

/-- The relation is about passages that are alike, and what does not bear on what is to be saved does not bear on it. -/
structure Passage.Tolerant (rel : Passage σ → Passage σ → Prop) : Prop where
  alike : ∀ {p q}, rel p q → p.Alike empties view other q
  step : ∀ {p q p' q'}, rel p q → Passage.Beside view p p' → Passage.Beside view q q' →
    p'.Alike empties view other q' → rel p' q'

/-! ## Hosts that neither change what is to be saved nor look at whether it is -/

/-- The function leaves the sessions as they are, and does the same to states that are alike. -/
structure LeavesSessions (f : σ → σ) : Prop where
  sessions : ∀ s, view (f s) = view s
  rest : ∀ s t, Akin empties view other s t → other (f s) = other (f t)

/-- The handler leaves context and session alone, and does not look at how and whether the context is saved. -/
structure Flow.LeavesAlone (handler : Flow σ Response) : Prop where
  quiet : handler.Quiet view
  sessions : ∀ p, view (handler p).2.backend = view p.backend
  alike : ∀ p q : Passage σ, p.Alike empties view other q →
    (handler p).1 = (handler q).1 ∧ (handler p).2.Alike empties view other (handler q).2

/-- The program has come to its end. -/
inductive Program.Done : Program σ → Prop
  | answer (response : Response) : Done (.answer response)
  | fail (failure : Failure) : Done (.fail failure)

/-- The program leaves context and session alone, and does not look at how and whether the context is saved; if it has
to hand on what it gets from ahead, then it comes to its end there. -/
inductive Program.LeavesAlone (handsOn : Prop) : Program σ → Prop
  | answer (response : Response) : LeavesAlone handsOn (.answer response)
  | fail (failure : Failure) : LeavesAlone handsOn (.fail failure)
  | look {next : Exchange σ → Program σ} (hsame : ∀ e e', e.outward = e'.outward → next e = next e')
    (h : ∀ e, LeavesAlone handsOn (next e)) : LeavesAlone handsOn (.look next)
  | ahead {next : Nat → Program σ} (h : ∀ n, LeavesAlone handsOn (next n)) : LeavesAlone handsOn (.ahead next)
  | touch {f : σ → σ} {next : σ → Program σ} (hf : LeavesSessions empties view other f)
    (hsame : ∀ s t, Akin empties view other s t → next s = next t) (h : ∀ s, LeavesAlone handsOn (next s)) :
    LeavesAlone handsOn (.touch f next)
  | queue (name value : String) {next : Program σ} (h : LeavesAlone handsOn next) :
    LeavesAlone handsOn (.queue name value next)
  | mark (name : String) {next : Bool → Program σ} (h : ∀ b, LeavesAlone handsOn (next b)) :
    LeavesAlone handsOn (.mark name next)
  | pass {next : Except Failure Response → Program σ} (h : ∀ outcome, LeavesAlone handsOn (next outcome))
    (hdone : handsOn → ∀ outcome, (next outcome).Done) : LeavesAlone handsOn (.pass next)

/-- The stage leaves the session alone, names nobody but as anonymous, and does not look at how and whether the context
is saved. -/
inductive Stage.LeavesAlone (handsOn : Prop) : Stage σ → Prop
  | anonymous : LeavesAlone handsOn .anonymous
  | authorization (rules : List Rule) (entry : EntryPoint) : LeavesAlone handsOn (.authorization rules entry)
  | custom (name : String) {code : Program σ} (h : code.LeavesAlone empties view other handsOn) :
    LeavesAlone handsOn (.custom name code)
  | entered {note : σ → σ} {inner : Stage σ} (hnote : LeavesSessions empties view other note)
    (h : LeavesAlone handsOn inner) : LeavesAlone handsOn (.entered note inner)

end Relations

variable {empties handsOn : Prop} {view : σ → Sessions} {other : σ → τ}

namespace LeavesSessions

variable {f g : σ → σ}

theorem akin (h : LeavesSessions empties view other f) {s t : σ} (hst : Akin empties view other s t) :
    Akin empties view other (f s) (f t) where
  sessions := by rw [h.sessions, h.sessions, hst.sessions]
  rest := h.rest s t hst
  sound := by rw [h.sessions]; exact hst.sound
  sound' := by rw [h.sessions]; exact hst.sound'

theorem id : LeavesSessions empties view other (fun s => s) :=
  ⟨fun _ => rfl, fun _ _ h => h.rest⟩

theorem comp (hg : LeavesSessions empties view other g) (hf : LeavesSessions empties view other f) :
    LeavesSessions empties view other fun s => g (f s) where
  sessions s := (hg.sessions _).trans (hf.sessions s)
  rest _ _ h := hg.rest _ _ (hf.akin h)

end LeavesSessions

namespace Passage

variable {p q p' q' : Passage σ} {repository : Repository σ} {rel : Passage σ → Passage σ → Prop}

/-- What is done to both exchanges alike keeps them alike. -/
theorem Alike.update (h : p.Alike empties view other q) {f : Exchange σ → Exchange σ}
    (hf : ∀ e, (f e).outward = f e.outward) : ({ p with exchange := f p.exchange } : Passage σ).Alike empties view other
      { q with exchange := f q.exchange } :=
  ⟨by rw [hf, hf, h.exchange], h.metrics, h.backend⟩

theorem Alike.request (h : p.Alike empties view other q) : q.exchange.request = p.exchange.request :=
  congrArg Visit.request (Exchange.eq_of_outward h.exchange).1.symm

theorem Beside.refl (p : Passage σ) : p.Beside view p :=
  ⟨rfl, .inl rfl, rfl, rfl, rfl⟩

theorem Beside.mark (p : Passage σ) (name : String) :
    p.Beside view { p with exchange := p.exchange.mark name } where
  session := congrArg Visit.session (p.exchange.mark_toVisit name)
  context := .inl (p.exchange.mark_context name)
  hook := p.exchange.mark_hook name
  repository := p.exchange.mark_repository name
  sessions := rfl

/-- Nobody is named where somebody is named as anonymous. -/
theorem Beside.anonymous (p : Passage σ) : p.Beside view { p with
    exchange := if p.exchange.context.isEmpty then p.exchange.authenticate .anonymous else p.exchange } := by
  cases hempty : p.exchange.context.isEmpty with
  | false => exact .refl p
  | true =>
    refine ⟨rfl, .inr ⟨?_, rfl⟩, rfl, rfl, rfl⟩
    refine Bool.eq_false_iff.2 fun hpersistable => ?_
    rw [SecurityContext.isEmpty_of_isPersistable hpersistable] at hempty
    cases hempty

theorem Beside.touch (p : Passage σ) {f : σ → σ} (hf : LeavesSessions empties view other f) :
    p.Beside view { p with backend := f p.backend } :=
  ⟨rfl, .inl rfl, rfl, rfl, hf.sessions _⟩

theorem Undisturbed.beside (h : p.Undisturbed view q) (hsessions : view q.backend = view p.backend) :
    p.Beside view q :=
  ⟨h.session, .inl h.context, h.hook, h.repository, hsessions⟩

theorem tolerant_outside : Tolerant (σ := σ) empties view other (Outside empties view other repository) where
  alike h := h.alike
  step h hp hq halike := {
    alike := halike
    hook := hp.hook.trans h.hook
    hook' := hq.hook.trans h.hook'
    repository := by rw [hp.repository]; exact h.repository }

theorem tolerant_inside : Tolerant (σ := σ) empties view other (Inside empties view other repository) where
  alike h := h.alike
  step h hp hq halike := {
    alike := halike
    hook := hp.hook.trans h.hook
    hook' := hq.hook.trans h.hook'
    repository := hp.repository.trans h.repository
    idle := by rw [hp.sessions, hp.session]; exact h.idle.congr hp.context }

theorem Tolerant.touch (hrel : Tolerant empties view other rel) {f : σ → σ}
    (hf : LeavesSessions empties view other f) (h : rel p q) :
    rel { p with backend := f p.backend } { q with backend := f q.backend } :=
  hrel.step h (.touch p hf) (.touch q hf)
    ⟨(hrel.alike h).exchange, (hrel.alike h).metrics, hf.akin (hrel.alike h).backend⟩

/-- Where there is nothing to be saved, saving makes no difference. -/
theorem Inside.returning {store : Store σ} {allow : Bool} (hstore : store.Prompt view) (hspares : store.Spares other)
    (h : Inside empties view other (.inSession store allow false) p q) :
    Returning empties view other (.inSession store allow false) p q := by
  obtain ⟨s, hsave, hakin⟩ := Repository.save_idle hstore hspares allow h.alike.backend.sound h.idle
  exact ⟨⟨p.exchange.toVisit, s, hsave, h.alike.exchange, h.alike.metrics, hakin.symm.trans h.alike.backend⟩, h.hook,
    h.repository⟩

end Passage

/-! ## What the host does -/

section Host

open Passage

variable {rel before after : Passage σ → Passage σ → Prop} {rest rest' handler : Flow σ Response}

theorem Flow.Alongside.mono {before' after' : Passage σ → Passage σ → Prop} {f g : Flow σ α}
    (h : Flow.Alongside before after f g) (hbefore : ∀ p q, before' p q → before p q)
    (hafter : ∀ p q, after p q → after' p q) : Flow.Alongside before' after' f g := by
  intro p q hpq
  obtain ⟨houtcome, hq⟩ := h p q (hbefore p q hpq)
  exact ⟨houtcome, hafter _ _ hq⟩

theorem Flow.LeavesAlone.alongside (h : handler.LeavesAlone empties view other)
    (hrel : Tolerant empties view other rel) : Flow.Alongside rel rel handler handler := by
  intro p q hpq
  obtain ⟨houtcome, halike⟩ := h.alike p q (hrel.alike hpq)
  exact ⟨houtcome, hrel.step hpq ((h.quiet p).beside (h.sessions p)) ((h.quiet q).beside (h.sessions q)) halike⟩

/-- A program that leaves alone what is to be saved. What comes back from ahead it may work on only if the passages are
of the first kind again. -/
theorem Program.LeavesAlone.alongside {code : Program σ} (hcode : code.LeavesAlone empties view other handsOn)
    (hbefore : Tolerant empties view other before) (hturn : ∀ p q, before p q → after p q)
    (hback : handsOn ∨ ∀ p q, after p q → before p q) (n : Nat) (hrest : Flow.Alongside before after rest rest') :
    Flow.Alongside before after (code.run ⟨n, rest⟩) (code.run ⟨n, rest'⟩) := by
  induction hcode with
  | answer response => exact fun p q hpq => ⟨rfl, hturn p q hpq⟩
  | fail failure => exact fun p q hpq => ⟨rfl, hturn p q hpq⟩
  | @look next hsame h ih =>
    intro p q hpq
    have hnext : next q.exchange = next p.exchange := (hsame _ _ (hbefore.alike hpq).exchange).symm
    have hrun := ih p.exchange p q hpq
    simp only [Program.run, Steps.bind_apply, Flow.exchange, hnext]
    exact hrun
  | ahead h ih => exact ih n
  | @touch f next hf hsame h ih =>
    intro p q hpq
    have hnext : next (f q.backend) = next (f p.backend) := (hsame _ _ (hf.akin (hbefore.alike hpq).backend)).symm
    have hrun := ih (f p.backend) _ _ (hbefore.touch hf hpq)
    simp only [Program.run, Steps.bind_apply, Flow.touch, hnext]
    exact hrun
  | queue name value h ih =>
    intro p q hpq
    exact ih _ _ (hbefore.step hpq ⟨rfl, .inl rfl, rfl, rfl, rfl⟩ ⟨rfl, .inl rfl, rfl, rfl, rfl⟩
      ((hbefore.alike hpq).update (f := (·.queue name value)) fun _ => rfl))
  | @mark name next h ih =>
    intro p q hpq
    have hmarked : q.exchange.isMarked name = p.exchange.isMarked name :=
      congrFun (Exchange.eq_of_outward (hbefore.alike hpq).exchange).2.2.1.symm name
    have hrun := ih (!p.exchange.isMarked name) { p with exchange := p.exchange.mark name }
      { q with exchange := q.exchange.mark name }
      (hbefore.step hpq (.mark p name) (.mark q name) ((hbefore.alike hpq).update fun e => e.outward_mark name))
    simp only [Program.run, Steps.bind_apply, Flow.exchange, Flow.update, hmarked]
    exact hrun
  | @pass next h hdone ih =>
    intro p q hpq
    obtain ⟨houtcome, hafter⟩ := hrest p q hpq
    simp only [Program.run, Steps.bind_apply, Flow.outcome, ← houtcome]
    -- a program that hands on is done here; any other works on in passages of the first kind
    rcases hback with hhands | hback
    · have hend := hdone hhands (rest p).1
      generalize next (rest p).1 = code at hend
      cases hend with
      | answer response => exact ⟨rfl, hafter⟩
      | fail failure => exact ⟨rfl, hafter⟩
    · exact ih (rest p).1 _ _ (hback _ _ hafter)

variable [Clocked σ]

/-- Whatever lies ahead, if it goes from passages of one kind to passages of the other, so does the stage before it. -/
def Stage.Steady (before after : Passage σ → Passage σ → Prop) (stage : Stage σ) : Prop :=
  ∀ n rest rest', Flow.Alongside before after rest rest' →
    Flow.Alongside before after (stage.run ⟨n, rest⟩) (stage.run ⟨n, rest'⟩)

/-- Stages of the host. What comes back from ahead they may work on only if the passages are of the first kind again. -/
theorem Stage.LeavesAlone.steady {stage : Stage σ} (hstage : stage.LeavesAlone empties view other handsOn)
    (hbefore : Tolerant empties view other before) (hturn : ∀ p q, before p q → after p q)
    (hback : handsOn ∨ ∀ p q, after p q → before p q) : stage.Steady before after := by
  induction hstage with
  | anonymous =>
    intro n rest rest' hrest p q hpq
    have hnamed (e : Exchange σ) : (if e.context.isEmpty then e.authenticate .anonymous else e).outward =
        if e.outward.context.isEmpty then e.outward.authenticate .anonymous else e.outward := by
      have hsame : e.outward.context = e.context := rfl
      rw [hsame]
      split <;> rfl
    exact hrest _ _ (hbefore.step hpq (.anonymous p) (.anonymous q) ((hbefore.alike hpq).update hnamed))
  | authorization rules entry =>
    intro n rest rest' hrest p q hpq
    obtain ⟨hvisit, hcontext, -, -⟩ := Exchange.eq_of_outward (hbefore.alike hpq).exchange
    simp only [run, Authorization.run, Steps.bind_apply, Flow.exchange, ← hvisit, ← hcontext]
    split
    · exact hrest p q hpq
    split
    · exact ⟨rfl, hturn p q hpq⟩
    · exact ⟨rfl, hturn p q hpq⟩
  | custom name h => exact fun n rest rest' hrest => h.alongside hbefore hturn hback n hrest
  | entered hnote h ih => exact fun n rest rest' hrest p q hpq => ih n rest rest' hrest _ _ (hbefore.touch hnote hpq)

/-- Stages that stand in both pipelines, in front of stages that may differ. -/
theorem Pipeline.alongside_append {front tail tail' : List (Stage σ)}
    (hfront : ∀ stage ∈ front, stage.Steady before after) (hlength : tail.length = tail'.length)
    (htail : Flow.Alongside before after (Pipeline.run handler tail) (Pipeline.run handler tail')) :
    Flow.Alongside before after (Pipeline.run handler (front ++ tail)) (Pipeline.run handler (front ++ tail')) := by
  induction front with
  | nil => exact htail
  | cons stage rest ih =>
    rw [List.forall_mem_cons] at hfront
    have hrest := hfront.1 (rest ++ tail).length _ _ (ih hfront.2)
    have hsame : (rest ++ tail').length = (rest ++ tail).length := by simp [hlength]
    rw [List.cons_append, List.cons_append, Pipeline.run, Pipeline.run, hsame]
    exact hrest

/-- A pipeline beside itself. -/
theorem Pipeline.alongside_self (hhandler : handler.LeavesAlone empties view other)
    (hrel : Tolerant empties view other rel) {stages : List (Stage σ)} (h : ∀ stage ∈ stages, stage.Steady rel rel) :
    Flow.Alongside rel rel (Pipeline.run handler stages) (Pipeline.run handler stages) := by
  have hnil : Flow.Alongside rel rel (Pipeline.run handler []) (Pipeline.run handler []) := hhandler.alongside hrel
  have happend := Pipeline.alongside_append h rfl hnil
  rwa [List.append_nil] at happend

end Host

/-! ## The stages in front of the one for the security context -/

namespace Stage

open Passage

variable {repository : Repository σ} [Clocked σ]

theorem steady_tracing : (tracing : Stage σ).Steady (Outside empties view other repository)
    (Outside empties view other repository) :=
  fun _ _ _ hrest => hrest

theorem steady_metrics (hclock : ∀ s : σ, Clocked.now s = (view s).now) :
    (metrics : Stage σ).Steady (Outside empties view other repository) (Outside empties view other repository) := by
  intro n rest rest' hrest p q hpq
  obtain ⟨houtcome, hback⟩ := hrest p q hpq
  have hnow {p q : Passage σ} (h : Outside empties view other repository p q) :
      Clocked.now p.backend = Clocked.now q.backend := by
    rw [hclock, hclock, h.alike.backend.now]
  have hmetrics := hback.alike.metrics
  simp only [run, runMetrics, Steps.bind_apply, Flow.now, Flow.outcome, Steps.modify_apply, Flow.resume, ← houtcome,
    ← hnow hpq, ← hnow hback, ← hmetrics]
  exact ⟨trivial, ⟨hback.alike.exchange, rfl, hback.alike.backend⟩, hback.hook, hback.hook', hback.repository⟩

omit [Clocked σ] in
theorem run_corsTransit_eq (decision : Cors.Decision) (reject : RejectPolicy) (rest : Flow σ Response)
    (p : Passage σ) : (corsTransit decision reject p).run rest =
      if corsPasses decision reject then (relay decision (rest p).1, (rest p).2)
      else (.ok (corsAnswer decision), p) := by
  rcases corsTransit_cases decision reject p with ⟨hpasses, h⟩ | ⟨hrefused, h⟩
  · rw [h, hpasses]
    rfl
  · rw [h, hrefused]
    rfl

theorem steady_cors (source : Cors.Source) (reject : RejectPolicy) : (cors source reject : Stage σ).Steady
    (Outside empties view other repository) (Outside empties view other repository) := by
  intro n rest rest' hrest p q hpq
  have hpq' : Outside empties view other repository
      { p with exchange := { p.exchange with decision := some (Cors.decide source p.exchange.request) } }
      { q with exchange := { q.exchange with decision := some (Cors.decide source p.exchange.request) } } :=
    ⟨hpq.alike.update (f := ({ · with decision := some (Cors.decide source p.exchange.request) })) fun _ => rfl,
      hpq.hook, hpq.hook', hpq.repository⟩
  obtain ⟨houtcome, hback⟩ := hrest _ _ hpq'
  rw [← run_transit, ← run_transit, transit, transit, hpq.alike.request, run_corsTransit_eq, run_corsTransit_eq]
  split
  · exact ⟨congrArg (relay _) houtcome, hback⟩
  · exact ⟨rfl, hpq'⟩

end Stage

/-! ## The stage for the security context and form login -/

section Saving

open Passage

variable {store : Store σ} {allow : Bool} {p q : Passage σ} {rest rest' : Flow σ Response}
  (hstore : store.Prompt view) (hspares : store.Spares other)
include hstore hspares

/-- Loading the context leads inside. -/
theorem Passage.Outside.load (h : Outside empties view other (.inSession store allow false) p q) : ∃ p' q',
    Flow.loadContext (.inSession store allow false) { p with exchange := p.exchange.mark Stage.contextMark } =
      (.ok (), p') ∧
    Flow.loadContext (.inSession store allow false) { q with exchange := q.exchange.mark Stage.contextMark } =
      (.ok (), q') ∧
    Inside empties view other (.inSession store allow false) p' (Plan.hooked (.inSession store allow false) q') := by
  obtain ⟨hvisit, -, -, -⟩ := Exchange.eq_of_outward h.alike.exchange
  obtain ⟨c, s, t, hp, hq, hst, hidle⟩ :=
    Repository.steady_load hstore hspares allow false p.exchange.toVisit h.alike.backend
  refine ⟨Plan.loaded (.inSession store allow false) c s p, Plan.loaded (.inSession store allow false) c t q,
    ?_, ?_, ?_⟩
  · rw [Flow.loadContext_apply]
    simp only [Exchange.mark_toVisit, hp, Plan.loaded]
  · rw [Flow.loadContext_apply]
    simp only [Exchange.mark_toVisit, ← hvisit, hq, Plan.loaded]
  · have hexchange (p : Passage σ) (s : σ) : (Plan.loaded (.inSession store allow false) c s p).exchange.outward =
        { p.exchange.outward.mark Stage.contextMark with
          context := c, state := .notLoaded, repository := some (.inSession store allow false) } := by
      rw [← Exchange.outward_mark]
      rfl
    refine ⟨⟨?_, h.alike.metrics, hst⟩, ?_, rfl, rfl, ?_⟩
    · show (Plan.loaded _ c s p).exchange.outward = (Plan.loaded _ c t q).exchange.outward
      rw [hexchange, hexchange, h.alike.exchange]
    · rw [Plan.loaded_hook]
      exact h.hook
    · rw [Plan.loaded_visit]
      exact hidle

/-- The two stages for the security context, one beside the other. -/
theorem Stage.alongside_context [Clocked σ] (n : Nat)
    (hpass : Flow.Alongside (Outside empties view other (.inSession store allow false))
      (Outside empties view other (.inSession store allow false)) rest rest')
    (hinside : Flow.Alongside (Inside empties view other (.inSession store allow false))
      (Returning empties view other (.inSession store allow false)) rest rest') :
    Flow.Alongside (Outside empties view other (.inSession store allow false))
      (Outside empties view other (.inSession store allow false))
      ((autoSave (.inSession store allow false)).run ⟨n, rest⟩)
      ((explicitSave (.inSession store allow false)).run ⟨n, rest'⟩) := by
  intro p q hpq
  rw [← run_transit, ← run_transit, transit, transit, onceTransit, onceTransit,
    ← (Exchange.eq_of_outward hpq.alike.exchange).2.2.1]
  split
  · exact hpass p q hpq
  · obtain ⟨p', q', hp, hq, hpq'⟩ := hpq.load hstore hspares
    obtain ⟨houtcome, ⟨visit, s, hsave, halike⟩, hhook, hrepository⟩ := hinside _ _ hpq'
    rw [Transit.step, hp, Transit.step, hq]
    simp only [Transit.run, Transit.close, settle_apply hsave]
    exact ⟨houtcome, ⟨halike.exchange, halike.metrics, halike.backend⟩, hhook, rfl, .inr hrepository⟩

/-- A form login that is going to be saved, beside one that saves itself. -/
theorem Passage.Inside.succeed (h : Inside empties view other (.inSession store allow false) p q) (f : FormLogin)
    (a : Authentication) : (f.succeed a p).1 = (f.succeed a q).1 ∧
      Returning empties view other (.inSession store allow false) (f.succeed a p).2 (f.succeed a q).2 := by
  obtain ⟨hvisit, -, -, hrepository⟩ := Exchange.eq_of_outward h.alike.exchange
  obtain ⟨b, visit, s, t, hp, hq, hst⟩ :=
    Repository.rotate_alike hstore hspares allow false p.exchange.toVisit h.alike.backend
  obtain ⟨visit', s', t', hp', hq', hst'⟩ := Repository.save_alike hstore hspares allow false ⟨some a⟩ visit hst
  have hhook : ((p.revisit (visit, s)).exchange.authenticate a).hook = none := h.hook
  have hhook' : ((q.revisit (visit, t)).exchange.authenticate a).hook = some (.inSession store allow false) := h.hook'
  have hsaved : (Repository.inSession store allow false).save ((q.revisit (visit, t)).exchange.authenticate a).context
      (((q.revisit (visit, t)).exchange.authenticate a).toVisit, (q.revisit (visit, t)).backend) =
        (.ok (), (visit', t')) := hq'
  have hexchange := congrArg (fun e : Exchange σ => { e with toVisit := visit', context := ⟨some a⟩ })
    h.alike.exchange
  rw [f.succeed_apply, f.succeed_apply, Flow.rotateSession_apply, Flow.rotateSession_apply, ← hrepository,
    h.repository]
  simp only [← hvisit, hp, hq, Flow.saveContext_apply, hhook, hhook', hsaved]
  -- `p` has the login in its exchange only: to save it there is what has been done in `q`
  exact ⟨trivial, ⟨visit', s', hp', hexchange, h.alike.metrics, hst'⟩, hhook, h.repository⟩

/-- Where nothing is going to be saved, a form login is saved nowhere. -/
theorem Passage.Outside.succeed (h : Outside empties view other (.inSession store allow false) p q) (f : FormLogin)
    (a : Authentication) : (f.succeed a p).1 = (f.succeed a q).1 ∧
      Outside empties view other (.inSession store allow false) (f.succeed a p).2 (f.succeed a q).2 := by
  obtain ⟨hvisit, -, -, hrepository⟩ := Exchange.eq_of_outward h.alike.exchange
  rw [f.succeed_apply, f.succeed_apply, Flow.rotateSession_apply, Flow.rotateSession_apply, ← hrepository]
  rcases h.repository with hnone | hsome
  · have hhook : (p.exchange.authenticate a).hook = none := h.hook
    have hhook' : (q.exchange.authenticate a).hook = none := h.hook'
    simp only [hnone, Flow.saveContext_apply, hhook, hhook']
    exact ⟨trivial, h.alike.update (f := (·.authenticate a)) fun _ => rfl, h.hook, h.hook', h.repository⟩
  · obtain ⟨b, visit, s, t, hp, hq, hst⟩ :=
      Repository.rotate_alike hstore hspares allow false p.exchange.toVisit h.alike.backend
    have hhook : ((p.revisit (visit, s)).exchange.authenticate a).hook = none := h.hook
    have hhook' : ((q.revisit (visit, t)).exchange.authenticate a).hook = none := h.hook'
    have hexchange := congrArg (fun e : Exchange σ => { e with toVisit := visit, context := ⟨some a⟩ })
      h.alike.exchange
    simp only [hsome, ← hvisit, hp, hq, Flow.saveContext_apply, hhook, hhook']
    exact ⟨trivial, ⟨hexchange, h.alike.metrics, hst⟩, h.hook, h.hook', .inr hsome⟩

omit hstore hspares in
/-- What form login does with a request, where a login that succeeds leads from passages of one kind to passages of the
other. -/
theorem Stage.steady_formLogin [Clocked σ] {before after : Passage σ → Passage σ → Prop} (settings : FormLogin)
    (users : Users) (hbefore : Tolerant empties view other before) (hturn : ∀ p q, before p q → after p q)
    (hsucceed : ∀ p q a, before p q →
      (settings.succeed a p).1 = (settings.succeed a q).1 ∧ after (settings.succeed a p).2 (settings.succeed a q).2) :
    (formLogin settings users).Steady before after := by
  intro n rest rest' hrest p q hpq
  rw [← run_transit, ← run_transit, transit, transit, (hbefore.alike hpq).request]
  split
  · exact ⟨rfl, hturn p q hpq⟩
  split
  · cases settings.verdict users p.exchange.request with
    | none => exact ⟨rfl, hturn p q hpq⟩
    | some a => exact hsucceed p q a hpq
  · exact hrest p q hpq

end Saving

end Portcullis
