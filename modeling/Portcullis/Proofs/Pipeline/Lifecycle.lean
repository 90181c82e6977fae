import Mathlib.Data.List.Chain
import Portcullis.Proofs.Pipeline.Journal

/-!
# The life of a security context

Of all the stages for the security context, nested and asked again as they may be, the first one that is reached does
its work and the others pass the request on. So a run on a new exchange takes one of four courses (`Course`, `Work`):
nobody has the context loaded; its loading fails; it is loaded by a stage that saves it on its exit; or it is loaded by
a stage that installs a hook, through which it may be saved until that stage is left. `Pipeline.context_lifecycle` reads
off them what holds of every run.

A run is looked at from both sides of the first stage's mark: behind it, steps keep the hook and at most save through it
(`Steady`); before it, they take part of a course (`Course.steady`, `Course.prepend`).
-/

namespace Portcullis

variable {σ α β : Type}

/-- How the state of a context may change from one moment to the next. -/
inductive ContextState.Moves : ContextState → ContextState → Prop
  | stay (s : ContextState) : Moves s s
  | load : Moves .notLoaded .loaded
  | save : Moves .loaded .saved
  | discard : Moves .loaded .discarded

/-- The deed of the moment, and state and hook after it. -/
structure Moment.Is (m : Moment σ) (deed : Deed) (state : ContextState) (hook : Option (Repository σ)) : Prop where
  deed : m.deed = deed
  state : m.exchange.state = state
  hook : m.exchange.hook = hook

/-- Under a hook that stays as it is, or under none, the state goes from one to another: nothing is loaded, stages pass
the request on, and what is saved is saved through the hook. -/
inductive Under (hook : Option (Repository σ)) : ContextState → Journal σ → ContextState → Prop
  | done (s : ContextState) : Under hook s [] s
  | still {m : Moment σ} {s s' : ContextState} {journal : Journal σ} (h : m.Is .step s hook)
    (rest : Under hook s journal s') : Under hook s (m :: journal) s'
  | passed {m : Moment σ} {mode : SaveMode} {s s' : ContextState} {journal : Journal σ}
    (h : m.Is (.leave mode true) s hook) (rest : Under hook s journal s') : Under hook s (m :: journal) s'
  | refused {m : Moment σ} {s s' : ContextState} {journal : Journal σ} (hhook : hook.isSome = true)
    (h : m.Is (.save .onRequest false) s hook) (rest : Under hook s journal s') : Under hook s (m :: journal) s'
  | saved {m : Moment σ} {s s' : ContextState} {journal : Journal σ} (hhook : hook.isSome = true)
    (h : m.Is (.save .onRequest true) .saved hook) (rest : Under hook .saved journal s') :
    Under hook s (m :: journal) s'

namespace Under

variable {hook : Option (Repository σ)} {s s' s'' : ContextState} {journal journal' : Journal σ}

theorem append (h : Under hook s journal s') (h' : Under hook s' journal' s'') :
    Under hook s (journal ++ journal') s'' := by
  induction h with
  | done s => exact h'
  | still hm _ ih => exact .still hm (ih h')
  | passed hm _ ih => exact .passed hm (ih h')
  | refused hhook hm _ ih => exact .refused hhook hm (ih h')
  | saved hhook hm _ ih => exact .saved hhook hm (ih h')

/-- Without a hook nothing changes. -/
theorem eq_of_none (h : Under (none : Option (Repository σ)) s journal s') : s' = s := by
  generalize hnone : (none : Option (Repository σ)) = hook at h
  induction h with
  | done s => rfl
  | still _ _ ih => exact ih
  | passed _ _ ih => exact ih
  | refused hhook _ _ _ => simp [← hnone] at hhook
  | saved hhook _ _ _ => simp [← hnone] at hhook

end Under

/-- Where a stage for the context has been reached, the exchange stays so, and so does the hook. -/
structure Steady (e : Exchange σ) (journal : Journal σ) (e' : Exchange σ) : Prop where
  marked : e'.isMarked Stage.contextMark = true
  hook : e'.hook = e.hook
  under : Under e.hook e.state journal e'.state

/-- Nothing has been done about the context. -/
structure Exchange.Untouched (e : Exchange σ) : Prop where
  state : e.state = .notLoaded
  hook : e.hook = none

/-- A stage for the context has been reached, and no hook is installed. -/
structure Exchange.Rests (e : Exchange σ) (state : ContextState) : Prop where
  marked : e.isMarked Stage.contextMark = true
  state : e.state = state
  hook : e.hook = none

/-- What the stage does that is the first one reached, and the state at the end: the context cannot be loaded, it is
loaded and saved on the exit, or it is loaded and a hook is installed. -/
inductive Work : SaveMode → Journal σ → ContextState → Prop
  | failed {mode : SaveMode} {load : Moment σ} (hload : load.Is (.load mode false) .notLoaded none) :
    Work mode [load] .notLoaded
  | onExit {load save settle : Moment σ} {inside : Journal σ} {ok : Bool}
    (hload : load.Is (.load .onExit true) .loaded none) (hinside : Under none .loaded inside .loaded)
    (hsave : save.Is (.save .onExit ok) .loaded none)
    (hsettle : settle.Is .settle (if ok then .saved else .discarded) none) :
    Work .onExit (load :: (inside ++ [save, settle])) (if ok then .saved else .discarded)
  | onRequest {load install settle : Moment σ} {inside : Journal σ} {repository : Repository σ} {reached : ContextState}
    (hload : load.Is (.load .onRequest true) .loaded none) (hinstall : install.Is .step .loaded (some repository))
    (hinside : Under (some repository) .loaded inside reached)
    (hsettle : settle.Is .settle (if reached = .loaded then .discarded else reached) none) :
    Work .onRequest (load :: install :: (inside ++ [settle])) (if reached = .loaded then .discarded else reached)

/-- The courses that a new exchange can take, and the exchange at the end. -/
inductive Course : Journal σ → Exchange σ → Prop
  /-- Nobody has the context loaded. -/
  | untouched {journal : Journal σ} {e : Exchange σ} (h : Under none .notLoaded journal .notLoaded)
    (he : e.Untouched) : Course journal e
  /-- A stage for the context has been reached, has done its work and has been left. -/
  | acted {before work after : Journal σ} {leave : Moment σ} {mode : SaveMode} {state : ContextState} {e : Exchange σ}
    (hbefore : Under none .notLoaded before .notLoaded) (hwork : Work mode work state)
    (hleave : leave.Is (.leave mode false) state none) (hafter : Under none state after state) (he : e.Rests state) :
    Course (before ++ (work ++ leave :: after)) e

namespace Steady

variable {e e' e'' : Exchange σ} {journal journal' : Journal σ}

theorem refl (h : e.isMarked Stage.contextMark = true) : Steady e [] e :=
  ⟨h, rfl, .done _⟩

theorem trans (h : Steady e journal e') (h' : Steady e' journal' e'') : Steady e (journal ++ journal') e'' :=
  ⟨h'.marked, h'.hook.trans h.hook, h.under.append (h.hook ▸ h'.under)⟩

/-- Where there is no hook, nothing happens to the context. -/
theorem rests {s : ContextState} (h : Steady e journal e') (he : e.Rests s) : Under none s journal s ∧ e'.Rests s := by
  have hunder := h.under
  rw [he.hook, he.state] at hunder
  have hstate := hunder.eq_of_none
  rw [hstate] at hunder
  exact ⟨hunder, h.marked, hstate, h.hook.trans he.hook⟩

end Steady

namespace Course

variable {e e' : Exchange σ} {journal journal' : Journal σ}

theorem refl (h : e.Untouched) : Course [] e :=
  .untouched (.done _) h

theorem hook (h : Course journal e) : e.hook = none := by
  cases h with
  | untouched _ he => exact he.hook
  | acted _ _ _ _ he => exact he.hook

/-- A course ends where it could begin, or with a mark that a stage for the context has been reached. -/
theorem ends (h : Course journal e) (hmarked : e.isMarked Stage.contextMark = false) :
    Under none .notLoaded journal .notLoaded ∧ e.Untouched := by
  cases h with
  | untouched h he => exact ⟨h, he⟩
  | acted _ _ _ _ he => simp [he.marked] at hmarked

theorem steady (h : Course journal e) (hmarked : e.isMarked Stage.contextMark = true) (h' : Steady e journal' e') :
    Course (journal ++ journal') e' := by
  cases h with
  | untouched h he =>
    obtain ⟨hunder, hrests⟩ := h'.rests ⟨hmarked, he.state, he.hook⟩
    exact .untouched (h.append hunder) ⟨hrests.state, hrests.hook⟩
  | acted hbefore hwork hleave hafter he =>
    obtain ⟨hunder, hrests⟩ := h'.rests he
    simp only [List.append_assoc, List.cons_append]
    exact .acted hbefore hwork hleave (hafter.append hunder) hrests

theorem prepend (h : Course journal e) (h' : Under none .notLoaded journal' .notLoaded) :
    Course (journal' ++ journal) e := by
  cases h with
  | untouched h he => exact .untouched (h'.append h) he
  | acted hbefore hwork hleave hafter he =>
    rw [← List.append_assoc]
    exact .acted (h'.append hbefore) hwork hleave hafter he

end Course

/-! ## Steps -/

namespace Noted

/-- From this passage the step leads on as `post` says, which gets the outcome, the passage and what has been noted. -/
def Leads (noted : Noted σ α) (p : Passage σ) (post : Except Failure α → Passage σ → Journal σ → Prop) : Prop :=
  ∀ journal, ∃ new, (noted (p, journal)).2.2 = journal ++ new ∧
    post (noted (p, journal)).1 (noted (p, journal)).2.1 new

section

variable {p : Passage σ} {post : Except Failure α → Passage σ → Journal σ → Prop}

theorem Leads.mono {noted : Noted σ α} (h : noted.Leads p post)
    {post' : Except Failure α → Passage σ → Journal σ → Prop} (hpost : ∀ r q new, post r q new → post' r q new) :
    noted.Leads p post' := by
  intro journal
  obtain ⟨new, hnew, hp⟩ := h journal
  exact ⟨new, hnew, hpost _ _ _ hp⟩

theorem leads_pure {a : α} (h : post (.ok a) p []) : Leads (pure a : Noted σ α) p post :=
  fun _ => ⟨[], by simp, h⟩

theorem leads_resume {result : Except Failure α} (h : post result p []) : (resume result : Noted σ α).Leads p post :=
  fun _ => ⟨[], by simp [resume], h⟩

theorem leads_take {f : Flow σ α} {deed : Passage σ → Except Failure α → Deed}
    (h : post (f p).1 (f p).2 [⟨deed p (f p).1, (f p).2.exchange⟩]) : (take f deed).Leads p post :=
  fun _ => ⟨_, rfl, h⟩

theorem Leads.outcome {noted : Noted σ α} {post : Except Failure (Except Failure α) → Passage σ → Journal σ → Prop}
    (h : noted.Leads p fun r q new => post (.ok r) q new) : (Noted.outcome noted).Leads p post :=
  h

theorem Leads.bind {noted : Noted σ α} {next : α → Noted σ β} {post : Except Failure β → Passage σ → Journal σ → Prop}
    (h : noted.Leads p fun r q new => match r with
      | .ok a => (next a).Leads q fun r' q' new' => post r' q' (new ++ new')
      | .error e => post (.error e) q new) : (noted >>= next).Leads p post := by
  intro journal
  obtain ⟨new, hnew, hpost⟩ := h journal
  rw [Steps.bind_apply]
  revert hnew hpost
  rcases noted (p, journal) with ⟨e | a, q, journal'⟩
  · rintro rfl hpost
    exact ⟨new, rfl, hpost⟩
  · rintro rfl hpost
    obtain ⟨new', hnew', hpost'⟩ := hpost (journal ++ new)
    exact ⟨new ++ new', by rw [hnew', List.append_assoc], hpost'⟩

end

/-- The step is steady where a stage for the context has been reached, and takes a course, or part of one, where not. -/
structure Orderly (noted : Noted σ α) : Prop where
  steady : ∀ p : Passage σ, p.exchange.isMarked Stage.contextMark = true →
    noted.Leads p fun _ q new => Steady p.exchange new q.exchange
  course : ∀ p : Passage σ, p.exchange.isMarked Stage.contextMark = false → p.exchange.Untouched →
    noted.Leads p fun _ q new => Course new q.exchange

theorem orderly_resume (result : Except Failure α) : (resume result : Noted σ α).Orderly where
  steady _ h := leads_resume (Steady.refl h)
  course _ _ h := leads_resume (Course.refl h)

theorem Orderly.bind {noted : Noted σ α} {next : α → Noted σ β} (h : noted.Orderly) (hnext : ∀ a, (next a).Orderly) :
    (noted >>= next).Orderly where
  steady p hp := by
    refine ((h.steady p hp).mono fun r q new hsteady => ?_).bind
    cases r with
    | error e => exact hsteady
    | ok a => exact ((hnext a).steady q hsteady.marked).mono fun _ _ _ h' => hsteady.trans h'
  course p hmarked hp := by
    refine ((h.course p hmarked hp).mono fun r q new hcourse => ?_).bind
    cases r with
    | error e => exact hcourse
    | ok a =>
      cases hq : q.exchange.isMarked Stage.contextMark with
      | true => exact ((hnext a).steady q hq).mono fun _ _ _ h' => hcourse.steady hq h'
      | false =>
        obtain ⟨hunder, huntouched⟩ := hcourse.ends hq
        exact ((hnext a).course q hq huntouched).mono fun _ _ _ h' => h'.prepend hunder

theorem Orderly.outcome {noted : Noted σ α} (h : noted.Orderly) : (Noted.outcome noted).Orderly where
  steady p hp := (h.steady p hp).outcome
  course p hmarked hp := (h.course p hmarked hp).outcome

theorem Orderly.discard {noted : Noted σ α} (h : noted.Orderly) : (Functor.discard noted).Orderly := by
  have heq : Functor.discard noted = noted >>= fun _ => resume (.ok ⟨⟩) :=
    map_eq_pure_bind (Function.const α PUnit.unit) noted
  rw [heq]
  exact h.bind fun _ => orderly_resume _

end Noted

/-- The step leaves state and hook of the context as they are, and takes no mark away. -/
structure Flow.SparesContext (f : Flow σ α) : Prop where
  state : ∀ p, (f p).2.exchange.state = p.exchange.state
  hook : ∀ p, (f p).2.exchange.hook = p.exchange.hook
  marked : ∀ p, p.exchange.isMarked Stage.contextMark = true → (f p).2.exchange.isMarked Stage.contextMark = true

namespace Exchange

@[simp] theorem mark_state (e : Exchange σ) (name : String) : (e.mark name).state = e.state := by
  unfold mark
  split <;> rfl

theorem isMarked_mark (e : Exchange σ) (name : String) : (e.mark name).isMarked name = true := by
  unfold mark
  split
  · assumption
  · simp [isMarked]

theorem isMarked_mark_of_isMarked {e : Exchange σ} {name : String} (h : e.isMarked name = true) (other : String) :
    (e.mark other).isMarked name = true := by
  unfold mark
  split
  · exact h
  · simp only [isMarked, List.contains_append, Bool.or_eq_true]
    exact .inl h

end Exchange

namespace Flow

theorem sparesContext_mark (name : String) : SparesContext (update (·.mark name) : Flow σ Unit) :=
  ⟨fun _ => Exchange.mark_state _ _, fun _ => Exchange.mark_hook _ _, fun _ h => Exchange.isMarked_mark_of_isMarked h _⟩

theorem sparesContext_rotateSession : SparesContext (rotateSession : Flow σ _) := by
  constructor <;> intro p <;> rw [rotateSession_apply] <;> cases p.exchange.repository <;>
    first | rfl | exact fun h => h

end Flow

namespace Noted

theorem orderly_step {f : Flow σ α} (h : f.SparesContext) : (step f).Orderly where
  steady p hp := leads_take ⟨h.marked p hp, h.hook p, .still ⟨rfl, h.state p, h.hook p⟩ (h.state p ▸ .done _)⟩
  course p _ hp := by
    have hstate := (h.state p).trans hp.state
    have hhook := (h.hook p).trans hp.hook
    exact leads_take (.untouched (.still ⟨rfl, hstate, hhook⟩ (.done _)) ⟨hstate, hhook⟩)

/-- Steps that read, or change other things, spare the context. -/
theorem orderly_update (f : Exchange σ → Exchange σ) (hstate : ∀ e, (f e).state = e.state)
    (hhook : ∀ e, (f e).hook = e.hook) (hmarks : ∀ e, (f e).marks = e.marks) : (step (Flow.update f)).Orderly := by
  refine orderly_step ⟨fun p => hstate _, fun p => hhook _, fun p h => ?_⟩
  rw [Exchange.isMarked] at h ⊢
  exact (hmarks p.exchange).symm ▸ h

theorem orderly_of_exchange {f : Flow σ α} (h : ∀ p, (f p).2.exchange = p.exchange) : (step f).Orderly :=
  orderly_step ⟨fun p => by rw [h], fun p => by rw [h], fun p hp => by rwa [h]⟩

theorem orderly_saveContext : (Noted.saveContext : Noted σ _).Orderly where
  steady p hp := by
    refine leads_take ?_
    rw [Flow.saveContext_apply]
    cases hhook : p.exchange.hook with
    | none =>
      refine ⟨hp, rfl, ?_⟩
      simp only [hhook]
      exact .still ⟨rfl, rfl, hhook⟩ (.done _)
    | some r =>
      simp only
      rcases r.save p.exchange.context (p.exchange.toVisit, p.backend) with ⟨e | u, after⟩
      · refine ⟨hp, rfl, ?_⟩
        simp only [hhook]
        exact .refused rfl ⟨rfl, rfl, hhook⟩ (.done _)
      · refine ⟨hp, rfl, ?_⟩
        simp only [hhook]
        exact .saved rfl ⟨rfl, rfl, hhook⟩ (.done _)
  course p _ hp := by
    refine leads_take ?_
    rw [Flow.saveContext_apply, hp.hook]
    exact .untouched (.still ⟨rfl, hp.state, hp.hook⟩ (.done _)) hp

end Noted

open Noted (Leads leads_take leads_resume orderly_step orderly_resume orderly_saveContext orderly_update
  orderly_of_exchange)

theorem Program.orderly_noted {rest : Noted σ Response} (hrest : rest.Orderly) (n : Nat) (code : Program σ) :
    (code.noted n rest).Orderly := by
  induction code with
  | answer response => exact orderly_resume (.ok response)
  | fail failure => exact orderly_resume (.error failure)
  | look next ih => exact (orderly_of_exchange fun _ => rfl).bind ih
  | ahead next ih => exact ih _
  | touch f next ih => exact (orderly_of_exchange fun _ => rfl).bind ih
  | authenticate a next ih =>
    exact (orderly_update (·.authenticate a) (fun _ => rfl) (fun _ => rfl) fun _ => rfl).bind fun _ => ih
  | clear next ih => exact (orderly_update Exchange.clear (fun _ => rfl) (fun _ => rfl) fun _ => rfl).bind fun _ => ih
  | save next ih => exact orderly_saveContext.bind ih
  | rotate next ih => exact (orderly_step Flow.sparesContext_rotateSession).bind ih
  | bind id next ih =>
    exact (orderly_update (·.bindSession id) (fun _ => rfl) (fun _ => rfl) fun _ => rfl).bind fun _ => ih
  | queue name value next ih =>
    exact (orderly_update (·.queue name value) (fun _ => rfl) (fun _ => rfl) fun _ => rfl).bind fun _ => ih
  | mark name next ih =>
    exact (orderly_of_exchange fun _ => rfl).bind fun _ =>
      (orderly_step (Flow.sparesContext_mark name)).bind fun _ => ih _
  | pass next ih => exact hrest.outcome.bind ih

theorem FormLogin.orderly_succeedNoted (f : FormLogin) (a : Authentication) :
    (f.succeedNoted a : Noted σ Response).Orderly :=
  (orderly_step Flow.sparesContext_rotateSession).bind fun _ => (orderly_resume _).discard.bind fun _ =>
    (orderly_update (·.authenticate a) (fun _ => rfl) (fun _ => rfl) fun _ => rfl).bind fun _ =>
      orderly_saveContext.bind fun _ => (orderly_resume _).discard.bind fun _ => orderly_resume (.ok _)

namespace Stage

variable {rest : Noted σ Response} (hrest : rest.Orderly)
include hrest

theorem orderly_followNoted (decision : Cors.Decision) (reject : RejectPolicy) :
    (followNoted decision reject rest).Orderly := by
  rcases decision with _ | _ | ⟨headers, _ | _⟩ | ⟨reason, _ | _⟩
  case allow.false => exact hrest.bind fun _ => orderly_resume (.ok _)
  all_goals cases reject <;> first | exact hrest | exact orderly_resume (.ok _)

/-- Where its mark has just been left, the stage does its work. -/
def Works (mode : SaveMode) (stage : Noted σ Response) : Prop :=
  ∀ p : Passage σ, p.exchange.Rests .notLoaded →
    stage.Leads p fun _ q new => ∃ state, Work mode new state ∧ q.exchange.Rests state

omit hrest in
theorem settle_exchange (result : Except Failure Response) (saved : Except RepositoryError Unit) (p : Passage σ) :
    (settle result saved p).2 = { p with exchange := { p.exchange with
      state := if Noted.isSaved (.ok saved) then .saved else .discarded } } := by
  rcases saved with e | u <;> rcases result with failure | response <;> rfl

omit hrest in
/-- Loading fails, or the context is loaded. -/
theorem leads_load (mode : SaveMode) (repository : Repository σ) {p : Passage σ}
    {post : Except Failure Unit → Passage σ → Journal σ → Prop} (hp : p.exchange.Rests .notLoaded)
    (hfail : ∀ e q m, m.Is (.load mode false) .notLoaded none → q.exchange.Rests .notLoaded → post (.error e) q [m])
    (hload : ∀ q m, m.Is (.load mode true) .loaded none → q.exchange.Rests .loaded → post (.ok ()) q [m]) :
    (Noted.take (Flow.loadContext repository) fun _ loaded => .load mode loaded.isOk).Leads p post := by
  refine leads_take ?_
  rw [Flow.loadContext_apply]
  rcases repository.load p.exchange.toVisit p.backend with ⟨e | context, s⟩
  · exact hfail _ _ _ ⟨rfl, hp.state, hp.hook⟩ ⟨hp.marked, hp.state, hp.hook⟩
  · exact hload _ _ ⟨rfl, rfl, hp.hook⟩ ⟨hp.marked, rfl, hp.hook⟩

theorem works_autoSaveNoted (repository : Repository σ) : Works .onExit (autoSaveNoted repository rest) := by
  intro p hp
  refine Leads.bind
    (leads_load .onExit repository hp (fun e q m hm hq => ⟨_, .failed hm, hq⟩) fun q load hload hq => ?_)
  refine Leads.bind (Leads.outcome ?_)
  refine (hrest.steady q hq.marked).mono fun result r inside hinside => ?_
  obtain ⟨hunder, hrests⟩ := hinside.rests hq
  refine Leads.bind (leads_take (Leads.bind (leads_take (leads_take ?_))))
  rw [settle_exchange]
  refine ⟨_, ?_, hrests.marked, rfl, hrests.hook⟩
  rw [← List.append_assoc inside]
  exact .onExit hload (hunder.append (.still ⟨rfl, hrests.state, hrests.hook⟩ (.done _)))
    ⟨rfl, hrests.state, hrests.hook⟩ ⟨rfl, rfl, hrests.hook⟩

theorem works_explicitSaveNoted (repository : Repository σ) :
    Works .onRequest (explicitSaveNoted repository rest) := by
  intro p hp
  refine Leads.bind (leads_load .onRequest repository hp (fun e q m hm hq => ⟨_, .failed hm, hq⟩)
    fun q load hload hq => ?_)
  refine Leads.bind (leads_take (Leads.bind (Leads.outcome ?_)))
  refine (hrest.steady { q with exchange := { q.exchange with hook := some repository } } hq.marked).mono
    fun result r inside hinside => ?_
  refine Leads.bind (leads_take (leads_resume ?_))
  refine ⟨_, ?_, hinside.marked, rfl, rfl⟩
  have hunder : Under (some repository) .loaded inside r.exchange.state := hq.state ▸ hinside.under
  exact .onRequest hload ⟨rfl, hq.state, rfl⟩ hunder ⟨rfl, rfl, rfl⟩

theorem orderly_onceNoted {mode : SaveMode} {stage : Noted σ Response} (h : Works mode stage) :
    (onceNoted mode rest stage).Orderly where
  steady p hp := by
    refine Leads.bind (leads_take ?_)
    simp only [Flow.exchange, hp, if_true]
    refine Leads.bind ((hrest.steady p hp).mono fun result q new hsteady => ?_).outcome
    refine Leads.bind (leads_take (leads_resume ?_))
    have hread : Steady p.exchange [⟨.step, p.exchange⟩] p.exchange := ⟨hp, rfl, .still ⟨rfl, rfl, rfl⟩ (.done _)⟩
    have hleft : Steady q.exchange [⟨.leave mode true, q.exchange⟩] q.exchange :=
      ⟨hsteady.marked, rfl, .passed ⟨rfl, rfl, rfl⟩ (.done _)⟩
    simpa using (hread.trans hsteady).trans hleft
  course p hmarked hp := by
    refine Leads.bind (leads_take ?_)
    simp only [Flow.exchange, hmarked, Bool.false_eq_true, if_false]
    have hmark : Exchange.Rests (p.exchange.mark contextMark) .notLoaded :=
      ⟨Exchange.isMarked_mark _ _, (Exchange.mark_state _ _).trans hp.state, (Exchange.mark_hook _ _).trans hp.hook⟩
    refine Leads.bind (Leads.outcome (Leads.bind (leads_take ?_)))
    refine (h _ hmark).mono fun result q new hwork => ?_
    obtain ⟨state, hwork, hrests⟩ := hwork
    refine Leads.bind (leads_take (leads_resume ?_))
    have hread : Moment.Is ⟨.step, p.exchange⟩ .step .notLoaded none := ⟨rfl, hp.state, hp.hook⟩
    have hstep : Moment.Is ⟨.step, p.exchange.mark contextMark⟩ .step .notLoaded none := ⟨rfl, hmark.state, hmark.hook⟩
    have hleave : Moment.Is ⟨.leave mode false, q.exchange⟩ (.leave mode false) state none :=
      ⟨rfl, hrests.state, hrests.hook⟩
    simpa [Flow.update] using Course.acted (.still hread (.still hstep (.done _))) hwork hleave (.done _) hrests

theorem orderly_noted [Clocked σ] (n : Nat) (stage : Stage σ) : (stage.noted n rest).Orderly := by
  induction stage with
  | tracing => exact hrest
  | metrics =>
    exact (orderly_of_exchange fun _ => rfl).bind fun _ => hrest.outcome.bind fun _ =>
      (orderly_of_exchange fun _ => rfl).bind fun _ => (orderly_of_exchange fun _ => rfl).bind fun _ => orderly_resume _
  | cors source reject =>
    exact (orderly_of_exchange fun _ => rfl).bind fun r =>
      (orderly_update (fun e => { e with decision := some (Cors.decide source r) }) (fun _ => rfl) (fun _ => rfl)
        fun _ => rfl).bind fun _ => orderly_followNoted hrest _ _
  | autoSave repository => exact orderly_onceNoted hrest (works_autoSaveNoted hrest repository)
  | explicitSave repository => exact orderly_onceNoted hrest (works_explicitSaveNoted hrest repository)
  | formLogin settings users =>
    refine (orderly_of_exchange fun _ => rfl).bind fun r => ?_
    split
    · exact orderly_resume (.ok _)
    split
    · cases settings.verdict users r with
      | none => exact orderly_resume (.ok _)
      | some a => exact settings.orderly_succeedNoted a
    · exact hrest
  | httpBasic realm users =>
    refine (orderly_of_exchange fun _ => rfl).bind fun r => ?_
    rcases HttpBasic.verdict users r with _ | _ | a
    · exact hrest
    · exact orderly_resume (.ok _)
    · exact (orderly_update (·.authenticate a) (fun _ => rfl) (fun _ => rfl) fun _ => rfl).bind fun _ => hrest
  | anonymous =>
    refine (orderly_update (fun e => if e.context.isEmpty then e.authenticate .anonymous else e) (fun e => ?_)
      (fun e => ?_) fun e => ?_).bind fun _ => hrest
    all_goals split <;> rfl
  | authorization rules entry =>
    refine (orderly_of_exchange fun _ => rfl).bind fun e => ?_
    split
    · exact hrest
    split <;> exact orderly_resume (.ok _)
  | custom name code => exact code.orderly_noted hrest n
  | entered note inner ih => exact (orderly_of_exchange fun _ => rfl).bind fun _ => ih

end Stage

theorem Pipeline.orderly_noted [Clocked σ] {handler : Noted σ Response} (h : handler.Orderly)
    (stages : List (Stage σ)) : (Pipeline.noted handler stages).Orderly := by
  induction stages with
  | nil => exact h
  | cons stage rest ih => exact stage.orderly_noted ih rest.length

theorem Program.orderly_handleNoted (code : Program σ) : code.handleNoted.Orderly :=
  code.orderly_noted (orderly_resume (.error (.handler "no handler"))) 0

/-! ## What holds of every course -/

namespace ContextState

/-- Through these moments the state moves from one to another. -/
def Flows : ContextState → Journal σ → ContextState → Prop
  | s, [], s' => s = s'
  | s, m :: journal, s' => s.Moves m.exchange.state ∧ m.exchange.state.Flows journal s'

variable {s s' s'' : ContextState} {journal journal' : Journal σ}

theorem Flows.append (h : s.Flows journal s') (h' : s'.Flows journal' s'') : s.Flows (journal ++ journal') s'' := by
  induction journal generalizing s with
  | nil => exact h ▸ h'
  | cons m journal ih => exact ⟨h.1, ih h.2⟩

theorem Flows.isChain (h : s.Flows journal s') : (s :: journal.map (·.exchange.state)).IsChain Moves := by
  induction journal generalizing s with
  | nil => exact .singleton s
  | cons m journal ih => exact .cons_cons h.1 (ih h.2)

end ContextState

open ContextState (Moves)

namespace Under

variable {hook : Option (Repository σ)} {s s' : ContextState} {journal : Journal σ}

/-- Nothing is loaded, no stage that has done its work is left, and the hook stays. -/
theorem of_mem (h : Under hook s journal s') {m : Moment σ} (hm : m ∈ journal) :
    m.deed.isLoad = false ∧ (∀ mode, m.deed ≠ .leave mode false) ∧ m.exchange.hook = hook ∧
      (m.deed.isSave = true → hook.isSome = true) := by
  induction h with
  | done s => cases hm
  | still hfirst _ ih | passed hfirst _ ih =>
    rcases List.mem_cons.1 hm with rfl | hlater
    · simp [hfirst.deed, hfirst.hook]
    · exact ih hlater
  | refused hhook hfirst _ ih | saved hhook hfirst _ ih =>
    rcases List.mem_cons.1 hm with rfl | hlater
    · simp [hfirst.deed, hfirst.hook, hhook]
    · exact ih hlater

theorem countP_isLoad (h : Under hook s journal s') : journal.countP (·.deed.isLoad) = 0 :=
  List.countP_eq_zero.2 fun m hm => by simp [(h.of_mem hm).1]

/-- Without a hook nothing is saved. -/
theorem filter_isSave (h : Under (none : Option (Repository σ)) s journal s') :
    (journal.map (·.deed)).filter Deed.isSave = [] := by
  refine List.filter_eq_nil_iff.2 fun deed hdeed hsave => ?_
  obtain ⟨m, hm, rfl⟩ := List.mem_map.1 hdeed
  simpa using (h.of_mem hm).2.2.2 hsave

theorem flows (h : Under hook s journal s') (hs : s = .loaded ∨ s = .saved) :
    s.Flows journal s' ∧ (s' = .loaded ∨ s' = .saved) := by
  induction h with
  | done s => exact ⟨rfl, hs⟩
  | still hfirst _ ih | passed hfirst _ ih | refused _ hfirst _ ih =>
    exact ⟨⟨hfirst.state ▸ .stay _, hfirst.state.symm ▸ (ih hs).1⟩, (ih hs).2⟩
  | @saved m s _ _ _ hfirst _ ih =>
    have hmoves : Moves s .saved := by
      rcases hs with rfl | rfl
      · exact .save
      · exact .stay _
    exact ⟨⟨hfirst.state ▸ hmoves, hfirst.state.symm ▸ (ih (.inr rfl)).1⟩, (ih (.inr rfl)).2⟩

theorem flows_none (h : Under (none : Option (Repository σ)) s journal s') : s.Flows journal s' := by
  generalize hnone : (none : Option (Repository σ)) = hook at h
  induction h with
  | done s => rfl
  | still hfirst _ ih | passed hfirst _ ih => exact ⟨hfirst.state ▸ .stay _, hfirst.state.symm ▸ ih⟩
  | refused hhook _ _ _ | saved hhook _ _ _ => simp [← hnone] at hhook

end Under

namespace Work

variable {mode : SaveMode} {journal : Journal σ} {state : ContextState}

theorem flows (h : Work mode journal state) : ContextState.notLoaded.Flows journal state := by
  cases h with
  | failed hload => exact ⟨hload.state ▸ .stay _, hload.state⟩
  | @onExit load save settle inside ok hload hinside hsave hsettle =>
    have hsettled : Moves .loaded (if ok then .saved else .discarded) := by
      cases ok
      · exact .discard
      · exact .save
    refine ⟨hload.state ▸ .load, hload.state.symm ▸ hinside.flows_none.append ⟨hsave.state ▸ .stay _, ?_⟩⟩
    exact hsave.state.symm ▸ ⟨hsettle.state ▸ hsettled, hsettle.state⟩
  | @onRequest load install settle inside repository reached hload hinstall hinside hsettle =>
    obtain ⟨hflows, hreached⟩ := hinside.flows (.inl rfl)
    have hsettled : Moves reached (if reached = .loaded then .discarded else reached) := by
      rcases hreached with rfl | rfl
      · exact .discard
      · exact .stay _
    refine ⟨hload.state ▸ .load, hload.state.symm ▸ ⟨hinstall.state ▸ .stay _, hinstall.state.symm ▸ ?_⟩⟩
    exact hflows.append ⟨hsettle.state ▸ hsettled, hsettle.state⟩

/-- No stage is left that has done its work. -/
theorem not_left (h : Work mode journal state) {m : Moment σ} (hm : m ∈ journal) (mode' : SaveMode) :
    m.deed ≠ .leave mode' false := by
  cases h with
  | failed hload =>
    rw [List.mem_singleton.1 hm, hload.deed]
    simp
  | onExit hload hinside hsave hsettle =>
    simp only [List.mem_cons, List.mem_append, List.not_mem_nil, or_false] at hm
    rcases hm with rfl | hm | rfl | rfl
    · simp [hload.deed]
    · exact (hinside.of_mem hm).2.1 mode'
    · simp [hsave.deed]
    · simp [hsettle.deed]
  | onRequest hload hinstall hinside hsettle =>
    simp only [List.mem_cons, List.mem_append, List.not_mem_nil, or_false] at hm
    rcases hm with rfl | rfl | hm | rfl
    · simp [hload.deed]
    · simp [hinstall.deed]
    · exact (hinside.of_mem hm).2.1 mode'
    · simp [hsettle.deed]

/-- One context is loaded, or meant to be. -/
theorem countP_isLoad (h : Work mode journal state) : journal.countP (·.deed.isLoad) = 1 := by
  cases h with
  | failed hload => simp [hload.deed]
  | onExit hload hinside hsave hsettle =>
    simp [hload.deed, hsave.deed, hsettle.deed, hinside.countP_isLoad]
  | onRequest hload hinstall hinside hsettle =>
    simp [hload.deed, hinstall.deed, hsettle.deed, hinside.countP_isLoad]

/-- Where the context has been loaded to be saved on the exit, that is done once, and nothing else is saved. -/
theorem saves (h : Work mode journal state) {m : Moment σ} (hm : m ∈ journal) (hdeed : m.deed = .load .onExit true) :
    ∃ ok, (journal.map (·.deed)).filter Deed.isSave = [.save .onExit ok] := by
  cases h with
  | failed hload => simp [List.mem_singleton.1 hm, hload.deed] at hdeed
  | @onExit load save settle inside ok hload hinside hsave hsettle =>
    exact ⟨ok, by simp [hload.deed, hsave.deed, hsettle.deed, hinside.filter_isSave, List.filter_cons]⟩
  | onRequest hload hinstall hinside hsettle =>
    simp only [List.mem_cons, List.mem_append, List.not_mem_nil, or_false] at hm
    rcases hm with rfl | rfl | hm | rfl
    · simp [hload.deed] at hdeed
    · simp [hinstall.deed] at hdeed
    · have hload := (hinside.of_mem hm).1
      simp [hdeed] at hload
    · simp [hsettle.deed] at hdeed

/-- Where a hook is installed, the context has been loaded before by the stage that has installed it. -/
theorem hooked (h : Work mode journal state) {past later : Journal σ} {m : Moment σ}
    (hsplit : journal = past ++ m :: later) (hhook : m.exchange.hook ≠ none) :
    ∃ m' ∈ past, m'.deed = .load .onRequest true := by
  have hm : m ∈ journal := by simp [hsplit]
  cases h with
  | failed hload => exact absurd (by rw [List.mem_singleton.1 hm, hload.hook]) hhook
  | onExit hload hinside hsave hsettle =>
    simp only [List.mem_cons, List.mem_append, List.not_mem_nil, or_false] at hm
    rcases hm with rfl | hm | rfl | rfl
    · exact absurd hload.hook hhook
    · exact absurd (hinside.of_mem hm).2.2.1 hhook
    · exact absurd hsave.hook hhook
    · exact absurd hsettle.hook hhook
  | onRequest hload hinstall hinside hsettle =>
    cases past with
    | nil =>
      obtain ⟨rfl, -⟩ := List.cons.inj hsplit
      exact absurd hload.hook hhook
    | cons first past =>
      obtain ⟨rfl, -⟩ := List.cons.inj hsplit
      exact ⟨_, List.mem_cons_self, hload.deed⟩

end Work

/-- What holds of the journal of every run on a new exchange. -/
structure Journal.Lifecycle (journal : Journal σ) : Prop where
  /-- No context is loaded twice, whether that succeeds or not. -/
  loads : journal.countP (·.deed.isLoad) ≤ 1
  /-- The state of the context moves along from one moment to the next. -/
  states : (ContextState.notLoaded :: journal.map (·.exchange.state)).IsChain Moves
  /-- A stage that saves on its exit, and that has loaded the context, saves it once; nobody else does. -/
  saves : ∀ m ∈ journal, m.deed = .load .onExit true →
    ∃ ok, (journal.map (·.deed)).filter Deed.isSave = [.save .onExit ok]
  /-- Once the stage is left that has done its work, no hook is installed any more. -/
  left : ∀ past m later mode, journal = past ++ m :: later → m.deed = .leave mode false →
    ∀ m' ∈ m :: later, m'.exchange.hook = none
  /-- Where a hook is installed, a stage has loaded the context that leaves saving to others, and it has not been
  left. -/
  hooked : ∀ past m later, journal = past ++ m :: later → m.exchange.hook ≠ none →
    (∃ m' ∈ past, m'.deed = .load .onRequest true) ∧ ∀ m' ∈ past ++ [m], ∀ mode, m'.deed ≠ .leave mode false

/-- Where a journal is cut that has been put together from two, the cut falls into one or the other. -/
theorem Journal.cut_cases {front back past later : Journal σ} {m : Moment σ}
    (h : front ++ back = past ++ m :: later) :
    (∃ between, past = front ++ between ∧ back = between ++ m :: later) ∨
      ∃ between, front = past ++ m :: between ∧ later = between ++ back := by
  rcases List.append_eq_append_iff.1 h with ⟨between, hpast, hback⟩ | ⟨between, hfront, hlater⟩
  · exact .inl ⟨between, hpast, hback⟩
  · cases between with
    | nil => exact .inl ⟨[], by simpa using hfront.symm, by simpa using hlater.symm⟩
    | cons b between =>
      obtain ⟨rfl, hrest⟩ := List.cons.inj hlater
      exact .inr ⟨between, hfront, hrest⟩

theorem Course.lifecycle {journal : Journal σ} {e : Exchange σ} (h : Course journal e) : Journal.Lifecycle journal := by
  cases h with
  | untouched h he =>
    refine ⟨by simp [h.countP_isLoad], h.flows_none.isChain, fun m hm hdeed => ?_, ?_, ?_⟩
    · have hload := (h.of_mem hm).1
      simp [hdeed] at hload
    · rintro past m later mode rfl hdeed
      exact absurd hdeed ((h.of_mem (by simp)).2.1 mode)
    · rintro past m later rfl hhook
      exact absurd (h.of_mem (by simp)).2.2.1 hhook
  | @acted before work after leave mode state e hbefore hwork hleave hafter he =>
    refine ⟨?_, ?_, fun m hm hdeed => ?_, ?_, ?_⟩
    · simp [hbefore.countP_isLoad, hafter.countP_isLoad, hwork.countP_isLoad, hleave.deed]
    · have hleft : state.Flows (leave :: after) state :=
        ⟨hleave.state ▸ .stay _, hleave.state.symm ▸ hafter.flows_none⟩
      exact (hbefore.flows_none.append (hwork.flows.append hleft)).isChain
    · have hquiet {journal : Journal σ} {s : ContextState} (h : Under none s journal s) (hm : m ∈ journal) : False := by
        have hload := (h.of_mem hm).1
        simp [hdeed] at hload
      have hmem : m ∈ work := by
        simp only [List.mem_append, List.mem_cons] at hm
        rcases hm with hm | hm | rfl | hm
        · exact (hquiet hbefore hm).elim
        · exact hm
        · simp [hleave.deed] at hdeed
        · exact (hquiet hafter hm).elim
      obtain ⟨ok, hsaves⟩ := hwork.saves hmem hdeed
      exact ⟨ok, by simp [hbefore.filter_isSave, hafter.filter_isSave, hsaves, hleave.deed]⟩
    · intro past m later mode' hsplit hdeed m' hm'
      have htail : m' ∈ leave :: after := by
        rw [← List.append_assoc] at hsplit
        rcases Journal.cut_cases hsplit with ⟨between, -, hback⟩ | ⟨between, hfront, -⟩
        · rw [hback]
          exact List.mem_append_right _ hm'
        · have hm : m ∈ before ++ work := by simp [hfront]
          rcases List.mem_append.1 hm with hm | hm
          · exact absurd hdeed ((hbefore.of_mem hm).2.1 mode')
          · exact absurd hdeed (hwork.not_left hm mode')
      rcases List.mem_cons.1 htail with rfl | hmem
      · exact hleave.hook
      · exact (hafter.of_mem hmem).2.2.1
    · intro past m later hsplit hhook
      rcases Journal.cut_cases hsplit with ⟨between, rfl, hback⟩ | ⟨between, rfl, -⟩
      case inr => exact absurd (hbefore.of_mem (by simp)).2.2.1 hhook
      rcases Journal.cut_cases hback with ⟨between', -, htail⟩ | ⟨between', hin, -⟩
      · have hm : m ∈ leave :: after := by simp [htail]
        rcases List.mem_cons.1 hm with rfl | hm
        · exact absurd hleave.hook hhook
        · exact absurd (hafter.of_mem hm).2.2.1 hhook
      · obtain ⟨m', hm', hloaded⟩ := hwork.hooked hin hhook
        refine ⟨⟨m', List.mem_append_right _ hm', hloaded⟩, fun m'' hm'' mode' => ?_⟩
        rw [List.append_assoc] at hm''
        rcases List.mem_append.1 hm'' with hm'' | hm''
        · exact (hbefore.of_mem hm'').2.1 mode'
        · refine hwork.not_left (m := m'') ?_ mode'
          rw [hin]
          simp only [List.mem_append, List.mem_cons] at hm'' ⊢
          tauto

/-- Of every run on a new exchange: the pipeline, made of any stages over any repositories that keep to the visit, and
with any handler, does what is noted of it, and the context lives as it should. -/
theorem Pipeline.context_lifecycle [Clocked σ] (stages : List (Stage σ)) (handler : Program σ) (r : Request)
    (cookieName : String) (metrics : Metrics) (backend : σ) :
    ∃ outcome q journal,
      Pipeline.noted handler.handleNoted stages (⟨.ofRequest r cookieName, metrics, backend⟩, []) =
        (outcome, q, journal) ∧
      Pipeline.run handler.handle stages ⟨.ofRequest r cookieName, metrics, backend⟩ = (outcome, q) ∧
      Journal.Lifecycle journal ∧ q.exchange.hook = none := by
  have htells := Pipeline.tells_noted handler.tells_handleNoted stages ⟨.ofRequest r cookieName, metrics, backend⟩ []
  obtain ⟨journal, hjournal, hcourse⟩ := (Pipeline.orderly_noted handler.orderly_handleNoted stages).course
    ⟨.ofRequest r cookieName, metrics, backend⟩ rfl ⟨rfl, rfl⟩ []
  rw [List.nil_append] at hjournal
  exact ⟨_, _, _, rfl, htells.symm, hjournal ▸ hcourse.lifecycle, hcourse.hook⟩

/-- Two stages that leave saving to others, and a stage between them that looks whether there is a hook when the inner
one has been left. -/
def nestedHolders : List (Stage Sessions) :=
  [.explicitSave .none,
    .custom "between" (.pass fun _ => .look fun e => .answer ⟨if e.hook.isSome then 200 else 404, [], .null⟩),
    .explicitSave .none]

/-- A stage that only passes the request on leaves the hook of the outer stage where it is. -/
theorem nestedHolders_leaves_hook :
    (∃ m ∈ (Pipeline.noted (Program.answer ⟨204, [], .null⟩).handleNoted nestedHolders
        (⟨.ofRequest { method := .get, path := "/" } "SESSION", {}, { supply := Ulid.ofNat }⟩, [])).2.2,
      m.deed = .leave .onRequest true ∧ m.exchange.hook.isSome = true) ∧
    (Pipeline.run (Program.answer ⟨204, [], .null⟩).handle nestedHolders
      ⟨.ofRequest { method := .get, path := "/" } "SESSION", {}, { supply := Ulid.ofNat }⟩).1 = .ok ⟨200, [], .null⟩ :=
  ⟨⟨_, List.mem_of_getElem? (i := 5) rfl, rfl, rfl⟩, rfl⟩

end Portcullis
