import Portcullis.Proofs.Guard.Layers

/-!
# Planted sessions

Somebody may have made a client present a session id of their choice. A login must not turn that session into one that
is logged in, or whoever knows the id is logged in as well. Form login takes care of that: it moves the session to a new
id before anything is saved (`Passage.Unfixed.succeed`). Basic authentication does not: in a chain that saves after each
request, the authentication that the header has earned is saved into the presented session, and
`Guard.presented_session_authenticates_iff` says that this is the only way.
-/

namespace Portcullis

variable {σ : Type}

namespace Sessions

variable {start s t : Sessions} {id i fresh : SessionId} {c : SecurityContext}

/-- The session of `id` is alive and holds somebody who has logged in. -/
def Authenticates (s : Sessions) (id : SessionId) : Prop :=
  ∃ c, s.Offers id c ∧ c.isAuthenticated = true

theorem Authenticates.isSome_live (h : s.Authenticates id) : (s.live? id).isSome = true := by
  obtain ⟨c, hc, -⟩ := h
  obtain ⟨session, hsession, -⟩ := offers_iff.1 hc
  rw [hsession]
  rfl

/-- Nobody has come to be logged in in the session of `id` since the start, unless the id has been issued since. -/
structure Innocent (start : Sessions) (id : SessionId) (s : Sessions) : Prop where
  later : start.Later s
  distinct : s.Distinct
  issued : s.Authenticates id → start.Issues s id

theorem Innocent.sheds (h : start.Innocent id s) (hsheds : s.Sheds t) : start.Innocent id t where
  later := h.later.trans hsheds.toLater
  distinct := hsheds.distinct h.distinct
  issued := by
    rintro ⟨c, hc, ha⟩
    exact (h.issued ⟨c, hsheds.offers h.distinct id c hc, ha⟩).later hsheds.toLater

theorem Innocent.keeps (h : start.Innocent id s) (hkeeps : s.Keeps i c t)
    (hc : i = id → c.isAuthenticated = true → start.Issues s id) : start.Innocent id t where
  later := h.later.trans hkeeps.toLater
  distinct := hkeeps.distinct h.distinct
  issued := by
    rintro ⟨c', hc', ha⟩
    by_cases hi : id = i
    · subst hi
      obtain rfl := hkeeps.only c' (holds_of_offers hc')
      exact (hc rfl ha).later hkeeps.toLater
    · exact (h.issued ⟨c', hkeeps.offers h.distinct id c' hi hc', ha⟩).later hkeeps.toLater

theorem Innocent.opens (h : start.Innocent id s) (hopens : s.Opens i t) : start.Innocent id t where
  later := h.later.trans hopens.toLater
  distinct := hopens.distinct h.distinct
  issued := by
    rintro ⟨c, hc, ha⟩
    exact (h.issued ⟨c, hopens.offers h.distinct id c hc, ha⟩).later hopens.toLater

theorem Innocent.moves (h : start.Innocent id s) (hmoves : s.Moves i fresh t) : start.Innocent id t where
  later := h.later.trans hmoves.toLater
  distinct := hmoves.distinct h.distinct
  issued := by
    rintro ⟨c, hc, ha⟩
    by_cases hi : id = fresh
    · subst hi
      exact h.later.issues hmoves.issues
    · exact (h.issued ⟨c, hmoves.offers h.distinct id c hi hc, ha⟩).later hmoves.toLater

end Sessions

/-! ## While the session is safe -/

/-- The presented session is innocent, and will stay so when the context is saved: while it is held, and has not been
issued since the start, the context that would be saved there names nobody who has logged in. -/
structure Passage.Unfixed (view : σ → Sessions) (start : Sessions) (repository : Repository σ) (id : SessionId)
    (p : Passage σ) : Prop where
  innocent : start.Innocent id (view p.backend)
  unbound : p.exchange.context.isAuthenticated = true → p.exchange.session = some id → id ∈ (view p.backend).ids →
    start.Issues (view p.backend) id
  loadedFrom : p.exchange.repository = some repository
  hook : ∀ r, p.exchange.hook = some r → r = repository

namespace Passage.Unfixed

variable {store : Store σ} {view : σ → Sessions} {start : Sessions} {allow always : Bool} {id : SessionId}
  {p q : Passage σ} {repository : Repository σ}

theorem undisturbed (h : p.Unfixed view start repository id) (hq : p.Undisturbed view q) :
    q.Unfixed view start repository id where
  innocent := h.innocent.sheds hq.sheds
  unbound ha hs hmem := (h.unbound (hq.context ▸ ha) (hq.session ▸ hs) (hq.sheds.ids hmem)).later hq.sheds.toLater
  loadedFrom := hq.repository.trans h.loadedFrom
  hook r hr := h.hook r (hq.hook ▸ hr)

theorem anonymous (h : p.Unfixed view start repository id) :
    ({ p with exchange := p.exchange.authenticate .anonymous } : Passage σ).Unfixed view start repository id where
  innocent := h.innocent
  unbound ha := by simp [Exchange.authenticate, SecurityContext.isAuthenticated, Authentication.isReal,
    Authentication.isAnonymous, Authentication.anonymous] at ha
  loadedFrom := h.loadedFrom
  hook := h.hook

/-- The state of the context says nothing about where it would be saved. -/
theorem setState (h : p.Unfixed view start repository id) (state : ContextState) :
    ({ p with exchange := { p.exchange with state } } : Passage σ).Unfixed view start repository id :=
  ⟨h.innocent, h.unbound, h.loadedFrom, h.hook⟩

theorem setHook (h : p.Unfixed view start repository id) :
    ({ p with exchange := { p.exchange with hook := some repository } } : Passage σ).Unfixed view start repository
      id where
  innocent := h.innocent
  unbound := h.unbound
  loadedFrom := h.loadedFrom
  hook _ hr := (Option.some.inj hr).symm

theorem saved {visit : Visit} {s : σ} (h : p.Unfixed view start repository id)
    (hsaved : Repository.Saved p.exchange.toVisit (view p.backend) p.exchange.context visit (view s)) :
    (p.revisit (visit, s)).Unfixed view start repository id := by
  cases hsaved with
  | nothing hsheds _ =>
    refine ⟨h.innocent.sheds hsheds, fun ha hs hmem => ?_, h.loadedFrom, h.hook⟩
    exact (h.unbound ha hs (hsheds.ids hmem)).later hsheds.toLater
  | @kept i _ hi hc hkeeps =>
    refine ⟨h.innocent.keeps hkeeps fun heq ha => ?_, fun ha hs hmem => ?_, h.loadedFrom, h.hook⟩
    · -- The session is held, so the context names nobody who has logged in.
      subst heq
      have hmem := Sessions.mem_ids_of_holds (Sessions.holds_of_offers hkeeps.kept)
      exact h.unbound ha hi (hkeeps.ids hmem)
    · exact (h.unbound ha hs (hkeeps.ids hmem)).later hkeeps.toLater
  | @opened i t _ hopens hkept _ =>
    have hissued (heq : i = id) : start.Issues t id := h.innocent.later.issues (heq ▸ hopens.issues)
    rcases hkept with hsheds | ⟨-, hkeeps⟩
    · refine ⟨(h.innocent.opens hopens).sheds hsheds, fun _ hs _ => ?_, h.loadedFrom, h.hook⟩
      exact (hissued (Option.some.inj hs)).later hsheds.toLater
    · refine ⟨(h.innocent.opens hopens).keeps hkeeps fun heq _ => hissued heq, fun _ hs _ => ?_, h.loadedFrom,
        h.hook⟩
      exact (hissued (Option.some.inj hs)).later hkeeps.toLater

section InMemory

variable (hstore : store.InMemory view)
include hstore

theorem saveContext (h : p.Unfixed view start (.inSession store allow always) id) :
    (Flow.saveContext p).2.Unfixed view start (.inSession store allow always) id := by
  refine Flow.keeps_saveContext h (fun r hr => ?_) fun q state hq => hq.setState state
  obtain rfl := h.hook r hr
  obtain ⟨result, visit, s, hsave, hsaved⟩ :=
    Repository.save_cases hstore allow always p.exchange.context p.exchange.toVisit p.backend
  rw [hsave]
  exact h.saved hsaved

/-- After a rotation, the presented session is no longer the one of the exchange, or is not held. -/
theorem rotateSession (h : p.Unfixed view start (.inSession store allow always) id) (a : Authentication) :
    (∃ b, (Flow.rotateSession p).1 = .ok (.ok b)) ∧
      ({ (Flow.rotateSession p).2 with exchange := (Flow.rotateSession p).2.exchange.authenticate a } :
        Passage σ).Unfixed view start (.inSession store allow always) id := by
  rw [Flow.rotateSession_apply, h.loadedFrom]
  obtain ⟨b, visit, s, hrotate, ⟨i, fresh, -, rfl, hmoves⟩ | ⟨rfl, hsheds, hgone⟩⟩ :=
    Repository.rotate_cases hstore allow always p.exchange.toVisit p.backend
  · simp only [hrotate]
    refine ⟨⟨b, rfl⟩, h.innocent.moves hmoves, fun _ hs _ => ?_, h.loadedFrom, h.hook⟩
    obtain rfl := Option.some.inj hs
    exact h.innocent.later.issues hmoves.issues
  · simp only [hrotate]
    exact ⟨⟨b, rfl⟩, h.innocent.sheds hsheds, fun _ hs hmem => absurd hmem (hgone id hs), h.loadedFrom, h.hook⟩

/-- A form login leaves the presented session innocent. -/
theorem succeed (h : p.Unfixed view start (.inSession store allow always) id) (f : FormLogin) (a : Authentication) :
    (f.succeed a p).2.Unfixed view start (.inSession store allow always) id := by
  obtain ⟨⟨b, hb⟩, hrotated⟩ := h.rotateSession hstore a
  rw [f.succeed_snd, hb]
  exact hrotated.saveContext hstore

end InMemory

end Passage.Unfixed

/-! ## Where sessions are not used -/

/-- The presented session is innocent, and no repository is at hand that could change it. -/
structure Passage.Sessionless (view : σ → Sessions) (start : Sessions) (id : SessionId) (p : Passage σ) : Prop where
  innocent : start.Innocent id (view p.backend)
  loadedFrom : ∀ r, p.exchange.repository = some r → r = .none
  hook : ∀ r, p.exchange.hook = some r → r = .none

namespace Passage.Sessionless

variable {view : σ → Sessions} {start : Sessions} {id : SessionId} {p q : Passage σ}

theorem undisturbed (h : p.Sessionless view start id) (hq : p.Undisturbed view q) : q.Sessionless view start id where
  innocent := h.innocent.sheds hq.sheds
  loadedFrom r hr := h.loadedFrom r (hq.repository ▸ hr)
  hook r hr := h.hook r (hq.hook ▸ hr)

theorem setContext (h : p.Sessionless view start id) (context : SecurityContext) :
    ({ p with exchange := { p.exchange with context } } : Passage σ).Sessionless view start id :=
  ⟨h.innocent, h.loadedFrom, h.hook⟩

theorem setState (h : p.Sessionless view start id) (state : ContextState) :
    ({ p with exchange := { p.exchange with state } } : Passage σ).Sessionless view start id :=
  ⟨h.innocent, h.loadedFrom, h.hook⟩

theorem loadContext (h : p.Sessionless view start id) :
    (Flow.loadContext .none { p with exchange := p.exchange.mark Stage.contextMark }).2.Sessionless view start id := by
  rw [Flow.loadContext_apply]
  refine ⟨h.innocent, ?_, fun r hr => h.hook r (p.exchange.mark_hook _ ▸ hr)⟩
  rintro _ ⟨⟩
  rfl

theorem saveContext (h : p.Sessionless view start id) : (Flow.saveContext p).2.Sessionless view start id := by
  refine Flow.keeps_saveContext h (fun r hr => ?_) fun q state hq => hq.setState state
  obtain rfl := h.hook r hr
  exact h

theorem rotateSession (h : p.Sessionless view start id) : (Flow.rotateSession p).2.Sessionless view start id := by
  refine Flow.keeps_rotateSession h fun r hr => ?_
  obtain rfl := h.loadedFrom r hr
  exact h

theorem succeed (h : p.Sessionless view start id) (f : FormLogin) (a : Authentication) :
    (f.succeed a p).2.Sessionless view start id := by
  rw [f.succeed_snd]
  split
  · exact (h.rotateSession.setContext ⟨some a⟩).saveContext
  · exact h.rotateSession

variable [Clocked σ]

/-- Every stage of a chain without sessions leaves the presented session innocent. -/
theorem keeps {plan : Plan σ} (hplan : ∀ c, plan.context = some c → c.2 = .none) {stage : Stage σ}
    (hstage : stage ∈ plan.stages) : stage.Keeps (·.Sessionless view start id) := by
  rcases Plan.mem_stages.1 hstage with ⟨-, rfl⟩ | ⟨-, rfl⟩ | ⟨c, -, rfl⟩ | ⟨⟨explicit, repository⟩, hc, rfl⟩ |
    ⟨f, -, rfl⟩ | ⟨basic, -, rfl⟩ | ⟨-, rfl⟩ | ⟨a, -, rfl⟩
  · exact Stage.keeps_tracing
  · exact Stage.keeps_metrics fun p metrics hp => ⟨hp.innocent, hp.loadedFrom, hp.hook⟩
  · exact Stage.keeps_cors fun p decision hp => ⟨hp.innocent, hp.loadedFrom, hp.hook⟩
  · obtain rfl : repository = .none := hplan _ hc
    cases explicit
    · exact Stage.keeps_autoSave (fun p hp => hp.loadContext) (fun p hp => hp) fun p state hp => hp.setState state
    · refine Stage.keeps_explicitSave (fun p hp => hp.loadContext) fun p hook state hhook hp => ?_
      exact ⟨hp.innocent, hp.loadedFrom, hhook⟩
  · exact Stage.keeps_formLogin fun p a hp _ _ => hp.succeed f.1 a
  · exact Stage.keeps_httpBasic fun p a hp _ => hp.setContext ⟨some a⟩
  · exact Stage.keeps_anonymous fun p hp _ => hp.setContext ⟨some .anonymous⟩
  · exact Stage.keeps_authorization

end Passage.Sessionless

/-! ## The way through a plain chain -/

/-- A request comes in and presents the session of `id`, which is innocent. -/
structure Passage.Presents (view : σ → Sessions) (start : Sessions) (id : SessionId) (p : Passage σ) : Prop where
  innocent : start.Innocent id (view p.backend)
  session : p.exchange.session = some id
  unmarked : p.exchange.isMarked Stage.contextMark = false
  hook : p.exchange.hook = none
  repository : p.exchange.repository = none

/-- The request gets as far as basic authentication, and earns an authentication there. -/
structure Plan.LogsIn (plan : Plan σ) (r : Request) (a : Authentication) : Prop where
  crosses : plan.Crosses r
  passesForm : plan.FormPasses r
  earned : plan.basicVerdict r = some (some a)

theorem Plan.LogsIn.isReal {plan : Plan σ} {r : Request} {a : Authentication} (h : plan.LogsIn r a) :
    a.isReal = true := by
  obtain ⟨basic, -, hverdict⟩ := Option.bind_eq_some_iff.1 h.earned
  obtain ⟨header, -, hadmit⟩ := Option.map_eq_some_iff.1 hverdict
  obtain ⟨u, -, -, -, rfl⟩ := Users.admit?_eq_some_iff.1 hadmit
  exact u.isReal_authentication nofun

namespace Passage.Presents

variable {view : σ → Sessions} {start : Sessions} {id : SessionId} {p : Passage σ}

theorem setDecision (h : p.Presents view start id) (decision : Option Cors.Decision) :
    ({ p with exchange := { p.exchange with decision } } : Passage σ).Presents view start id :=
  ⟨h.innocent, h.session, h.unmarked, h.hook, h.repository⟩

theorem sessionless (h : p.Presents view start id) : p.Sessionless view start id where
  innocent := h.innocent
  loadedFrom r hr := by simp [h.repository] at hr
  hook r hr := by simp [h.hook] at hr

theorem unfixed {repository : Repository σ} {c : SecurityContext} {s : σ} (h : p.Presents view start id)
    (hsheds : (view p.backend).Sheds (view s)) (hc : (view p.backend).Yields p.exchange.session c) :
    (Plan.loaded repository c s p).Unfixed view start repository id where
  innocent := h.innocent.sheds hsheds
  unbound ha _ _ := by
    -- Nobody who has logged in is found in an innocent session.
    rcases hc with rfl | ⟨i, hi, -, hoffers⟩
    · cases ha
    · rw [h.session] at hi
      cases hi
      exact (h.innocent.issued ⟨c, hoffers h.innocent.distinct, ha⟩).later hsheds.toLater
  loadedFrom := rfl
  hook r hr := by simp [h.hook] at hr

end Passage.Presents

namespace Plan

variable [Clocked σ] {view : σ → Sessions} {start : Sessions} {id : SessionId} {p : Passage σ} {plan : Plan σ}
  {store : Store σ}
  {allow always : Bool}

/-- What the passage is like on its way back to the stage that saves. -/
theorem ends_unfixed (hstore : store.InMemory view) (hp : p.Unfixed view start (.inSession store allow always) id)
    (hearns : plan.FormPasses p.exchange.request → ∀ a, plan.basicVerdict p.exchange.request ≠ some (some a)) :
    (Pipeline.transit plan.innerStages p).Ends view (·.Unfixed view start (.inSession store allow always) id) := by
  have hlast : (Pipeline.transit plan.lastStages p).Ends view
      (·.Unfixed view start (.inSession store allow always) id) :=
    (plan.keeps_last hp fun q hq _ => hq.anonymous).ends fun q q' hq => hq.undisturbed
  refine plan.ends_formLogin (fun hform => ?_) (fun _ => hp) fun _ f a => hp.succeed hstore f a
  exact plan.ends_httpBasic (fun _ => hlast) (fun _ => hp) fun a ha => absurd ha (hearns hform a)

/-- Where only a form login saves, the presented session stays innocent. -/
theorem ends_innocent_of_hook (hstore : store.InMemory view)
    (hp : p.Unfixed view start (.inSession store allow always) id) :
    (Pipeline.transit plan.innerStages p).Ends view fun q => start.Innocent id (view q.backend) := by
  have hlast (q : Passage σ) (hq : start.Innocent id (view q.backend)) :
      (Pipeline.transit plan.lastStages q).Ends view fun q => start.Innocent id (view q.backend) := by
    have hkeeps : (Pipeline.transit plan.lastStages q).Keeps fun q => start.Innocent id (view q.backend) :=
      plan.keeps_last hq fun q hq _ => hq
    exact hkeeps.ends fun q q' hq hquiet => hq.sheds hquiet.sheds
  refine plan.ends_formLogin (fun _ => ?_) (fun _ => hp.innocent) fun _ f a => (hp.succeed hstore f a).innocent
  exact plan.ends_httpBasic (fun _ => hlast p hp.innocent) (fun _ => hp.innocent) fun a _ => hlast _ hp.innocent

/-- A chain that saves after each request leaves the presented session innocent, unless basic authentication logs
somebody in. -/
theorem ends_innocent_of_autoSave (hstore : store.InMemory view) (hp : p.Presents view start id)
    (hplan : plan.context = some (false, .inSession store allow always))
    (hlogin : ∀ a, ¬ plan.LogsIn p.exchange.request a) :
    (Pipeline.transit plan.stages p).Ends view fun q => start.Innocent id (view q.backend) := by
  rw [stages_eq_layers, hplan]
  refine plan.ends_outer (fun hcross decision => ?_) fun _ => hp.innocent
  have hp' := hp.setDecision decision
  refine ends_autoSave hstore hp'.unmarked (fun c s hsheds hc => ends_unfixed hstore (hp'.unfixed hsheds hc) ?_)
    fun q visit s hq hsaved => (hq.saved hsaved).innocent
  intro hform a ha
  rw [loaded_visit] at hform ha
  exact hlogin a ⟨hcross, hform, ha⟩

/-- A chain that leaves saving to others leaves the presented session innocent. -/
theorem ends_innocent_of_explicitSave (hstore : store.InMemory view) (hp : p.Presents view start id)
    (hplan : plan.context = some (true, .inSession store allow always)) :
    (Pipeline.transit plan.stages p).Ends view fun q => start.Innocent id (view q.backend) := by
  rw [stages_eq_layers, hplan]
  refine plan.ends_outer (fun _ decision => ?_) fun _ => hp.innocent
  have hp' := hp.setDecision decision
  refine ends_explicitSave hstore hp'.unmarked fun c s hsheds hc => ?_
  have hloaded : (loaded (.inSession store allow always) c s _).Unfixed view start _ id := hp'.unfixed hsheds hc
  exact ends_innocent_of_hook hstore (hloaded.setHook)

/-- A chain without sessions leaves the presented session innocent. -/
theorem ends_innocent_of_sessionless (hp : p.Sessionless view start id)
    (hplan : ∀ c, plan.context = some c → c.2 = .none) :
    (Pipeline.transit plan.stages p).Ends view fun q => start.Innocent id (view q.backend) := by
  have hkeeps : (Pipeline.transit plan.stages p).Keeps (·.Sessionless view start id) :=
    Pipeline.keeps (fun _ => Passage.Sessionless.keeps hplan) hp
  exact (hkeeps.ends fun q q' hq => hq.undisturbed).mono fun q hq => hq.innocent

end Plan

/-! ## When the presented session is logged in -/

/-- The session of `id`, if it is alive and has not been issued since the start, holds somebody who has logged in. -/
def Sessions.Taken (start : Sessions) (id : SessionId) (s : Sessions) : Prop :=
  ¬ start.Issues s id → (s.live? id).isSome = true → s.Authenticates id

/-- Basic authentication has logged somebody in, in the presented session. -/
structure Passage.LoggedIn (view : σ → Sessions) (start : Sessions) (id : SessionId) (a : Authentication)
    (p : Passage σ) : Prop where
  context : p.exchange.context = ⟨some a⟩
  session : p.exchange.session = some id
  later : start.Later (view p.backend)

theorem Passage.Presents.loggedIn {view : σ → Sessions} {start : Sessions} {id : SessionId} {p : Passage σ}
    {repository : Repository σ} {c : SecurityContext} {s : σ} {a : Authentication} (h : p.Presents view start id)
    (hsheds : (view p.backend).Sheds (view s)) :
    ({ Plan.loaded repository c s p with exchange := (Plan.loaded repository c s p).exchange.authenticate a } :
      Passage σ).LoggedIn view start id a where
  context := rfl
  session := (congrArg Visit.session (Plan.loaded_visit repository c s p)).trans h.session
  later := h.innocent.later.trans hsheds.toLater

namespace Passage.LoggedIn

variable {view : σ → Sessions} {start : Sessions} {id : SessionId} {a : Authentication} {p q : Passage σ}

theorem undisturbed (h : p.LoggedIn view start id a) (hq : p.Undisturbed view q) : q.LoggedIn view start id a where
  context := hq.context.trans h.context
  session := hq.session.trans h.session
  later := h.later.trans hq.sheds.toLater

/-- When the context is saved, the session is logged in or lost. -/
theorem saved {visit : Visit} {s : σ} (h : p.LoggedIn view start id a) (ha : a.isReal = true)
    (hsaved : Repository.Saved p.exchange.toVisit (view p.backend) p.exchange.context visit (view s)) :
    start.Taken id (view s) := by
  intro hissued hlive
  have hauthenticated : p.exchange.context.isAuthenticated = true := by rw [h.context]; exact ha
  have hpersistable : p.exchange.context.isPersistable = true := by
    rw [h.context]
    exact (Bool.and_eq_true_iff.1 ha).2
  have hmem := Sessions.mem_ids_of_live hlive
  cases hsaved with
  | nothing _ hgone => exact absurd hmem (hgone hpersistable id h.session)
  | kept hid _ hkeeps =>
    obtain rfl := Option.some.inj (h.session.symm.trans hid)
    exact ⟨_, hkeeps.kept, hauthenticated⟩
  | @opened i t _ hopens hkept hgone =>
    refine absurd hmem (hgone id h.session ?_)
    rintro rfl
    have hlater : t.Later (view s) := by
      rcases hkept with hsheds | ⟨-, hkeeps⟩
      · exact hsheds.toLater
      · exact hkeeps.toLater
    exact hissued ((h.later.issues hopens.issues).later hlater)

end Passage.LoggedIn

namespace Plan

variable [Clocked σ] {view : σ → Sessions} {start : Sessions} {id : SessionId} {p : Passage σ} {plan : Plan σ}
  {store : Store σ}
  {allow always : Bool} {a : Authentication}

/-- A chain that saves after each request logs the presented session in when basic authentication logs somebody in. -/
theorem ends_loggedIn (hstore : store.InMemory view) (hp : p.Presents view start id)
    (hplan : plan.context = some (false, .inSession store allow always)) (hlogin : plan.LogsIn p.exchange.request a) :
    (Pipeline.transit plan.stages p).Ends view fun q => start.Taken id (view q.backend) := by
  have hlast (q : Passage σ) (hq : q.LoggedIn view start id a) :
      (Pipeline.transit plan.lastStages q).Ends view (·.LoggedIn view start id a) := by
    have hkeeps : (Pipeline.transit plan.lastStages q).Keeps (·.LoggedIn view start id a) := by
      refine plan.keeps_last hq fun q hq hempty => ?_
      rw [hq.context] at hempty
      cases hempty
    exact hkeeps.ends fun q q' hq => hq.undisturbed
  rw [stages_eq_layers, hplan]
  refine plan.ends_outer (fun _ decision => ?_) fun hstop => absurd hlogin.crosses hstop
  have hp' := hp.setDecision decision
  refine ends_autoSave hstore hp'.unmarked (fun c s hsheds _ => ?_)
    fun q visit s hq hsaved => Passage.LoggedIn.saved hq hlogin.isReal hsaved
  refine plan.ends_formLogin (fun _ => ?_) (fun hstay => ?_) fun hsucceed => ?_
  · refine plan.ends_httpBasic (fun hpass => ?_) (fun hrefuse => ?_) fun b hb => ?_
    · rw [loaded_visit, hlogin.earned] at hpass
      cases hpass
    · rw [loaded_visit, hlogin.earned] at hrefuse
      cases hrefuse
    · rw [loaded_visit, hlogin.earned] at hb
      cases hb
      exact hlast _ (hp'.loggedIn hsheds)
  · rw [loaded_visit] at hstay
    exact absurd hlogin.passesForm hstay
  · rw [loaded_visit] at hsucceed
    exact absurd hlogin.passesForm hsucceed

end Plan

/-! ## Guards -/

/-- The chain saves after each request, and the request gets as far as basic authentication and earns an
authentication there. -/
structure Chain.SavesBasicLogin (c : Chain σ) (r : Request) : Prop where
  saves : ∃ store allow always, .autoSave (.inSession store allow always) ∈ c.stages
  crosses : ∀ source reject, .cors source reject ∈ c.stages →
    Stage.corsPasses (Cors.decide source r) reject = true
  passesForm : ∀ form users, .formLogin form users ∈ c.stages →
    form.asksPage r = false ∧ form.isSubmission r = false
  earned : ∃ realm users a, .httpBasic realm users ∈ c.stages ∧ HttpBasic.verdict users r = some (some a)

/-- What the stages of a plan say about a login, the plan says. -/
theorem Plan.savesBasicLogin_iff {plan : Plan σ} {c : Chain σ} (hstages : c.stages = plan.stages) {r : Request} :
    c.SavesBasicLogin r ↔ (∃ store allow always, plan.context = some (false, .inSession store allow always)) ∧
      ∃ a, plan.LogsIn r a := by
  constructor
  · rintro ⟨hsaves, hcrosses, hform, realm, users, a, hbasic, hverdict⟩
    simp only [hstages, autoSave_mem_stages, cors_mem_stages, formLogin_mem_stages, httpBasic_mem_stages] at *
    refine ⟨hsaves, a, fun cors hcors => hcrosses _ _ hcors, fun form h => hform _ _ h, ?_⟩
    rw [basicVerdict, hbasic]
    exact hverdict
  · rintro ⟨hsaves, a, hlogin⟩
    obtain ⟨basic, hbasic, hverdict⟩ := Option.bind_eq_some_iff.1 hlogin.earned
    refine ⟨?_, ?_, ?_, basic.1, basic.2, a, ?_, hverdict⟩ <;>
      simp only [hstages, autoSave_mem_stages, cors_mem_stages, formLogin_mem_stages, httpBasic_mem_stages]
    · exact hsaves
    · exact fun source reject h => hlogin.crosses _ h
    · exact fun form users h => hlogin.passesForm _ h
    · exact hbasic

theorem Repository.inSession_ne_none {store : Store σ} {allow always : Bool} :
    inSession store allow always ≠ .none :=
  fun h => absurd (congrArg Repository.name h) (by simp [inSession, sessionName, none])

/-- Where a plain chain keeps contexts by default: nowhere, or in sessions. -/
theorem Blueprint.Found.context_cases {b : Blueprint σ} {shared : Shared σ} {plan : Plan σ} (h : b.Found shared plan)
    (hrepository : b.context.repository = none) : (∀ c, plan.context = some c → c.2 = .none) ∨
      ∃ explicit allow always, plan.context = some (explicit, .inSession shared.store allow always) := by
  have hcontext := h.context
  rw [hrepository, Option.getD_none] at hcontext
  cases hdisabled : b.context.disabled with
  | true =>
    rw [hdisabled, if_pos rfl] at hcontext
    exact .inl (by simp [hcontext])
  | false =>
    rw [hdisabled, if_neg Bool.false_ne_true] at hcontext
    cases hpolicy : b.session.policy
    case stateless =>
      rw [hpolicy] at hcontext
      refine .inl fun c hc => ?_
      rw [hcontext] at hc
      cases hc
      rfl
    all_goals
      rw [hpolicy] at hcontext
      exact .inr ⟨_, _, _, hcontext⟩

namespace Guard

variable [Clocked σ] {g : Guard σ} {view : σ → Sessions} {id : SessionId} {d : Desk σ} {r : Request}

/-- A request presents a session in which nobody has logged in to a plain chain that keeps contexts where chains keep
them by default. Afterwards somebody is logged in there in one case only: the chain saves after each request, basic
authentication has logged somebody in, and the session is still alive. -/
theorem presented_session_authenticates_iff {b : Blueprint σ} {shared : Shared σ} {c : Chain σ}
    (hb : b.Plain) (hrepository : b.context.repository = none) (hbuild : b.build shared = .ok c)
    (hstore : shared.store.InMemory view) (hchain : g.chainFor? r.path = some c)
    (hpresented : g.presented r = some id) (hdistinct : (view d.backend).Distinct)
    (hbefore : ¬ (view d.backend).Authenticates id) {handler : Flow σ Response} (hquiet : handler.Quiet view)
    (hissued : ¬ (view d.backend).Issues (view (g.after d [.request r handler]).backend) id) :
    (view (g.after d [.request r handler]).backend).Authenticates id ↔
      c.SavesBasicLogin r ∧ ((view (g.after d [.request r handler]).backend).live? id).isSome = true := by
  obtain ⟨plan, hplan, hstages, -⟩ := Blueprint.exists_plan hb hbuild
  have henter : (g.enter r d).Presents view (view d.backend) id :=
    ⟨⟨.refl _, hdistinct, fun h => absurd h hbefore⟩, hpresented, rfl, rfl, rfl⟩
  have htransit : g.transit (g.enter r d) = Pipeline.transit plan.stages (g.enter r d) := by
    have hpath : g.chainFor? (g.enter r d).exchange.request.path = some c := hchain
    rw [transit, hpath, ← hstages]
  -- What the stages guarantee of the way through them holds after the request.
  have hafter {goal : Sessions → Prop}
      (h : (Pipeline.transit plan.stages (g.enter r d)).Ends view fun q => goal (view q.backend)) :
      goal (view (g.after d [.request r handler]).backend) := by
    have hrun := h.run fun p _ => hquiet p
    rw [← htransit, run_transit] at hrun
    exact hrun
  have hnot (h : (Pipeline.transit plan.stages (g.enter r d)).Ends view fun q =>
      (view d.backend).Innocent id (view q.backend)) :
      ¬ (view (g.after d [.request r handler]).backend).Authenticates id :=
    fun hafterwards => hissued ((hafter h).issued hafterwards)
  rw [Plan.savesBasicLogin_iff hstages]
  rcases (Blueprint.found_of_plan hplan).context_cases hrepository with hnone | ⟨explicit, allow, always, hcontext⟩
  · refine iff_of_false (hnot (Plan.ends_innocent_of_sessionless henter.sessionless hnone)) ?_
    rintro ⟨⟨⟨store, allow, always, hcontext⟩, -⟩, -⟩
    exact Repository.inSession_ne_none (hnone _ hcontext)
  · cases explicit with
    | true =>
      refine iff_of_false (hnot (Plan.ends_innocent_of_explicitSave hstore henter hcontext)) ?_
      rintro ⟨⟨⟨store, allow', always', hcontext'⟩, -⟩, -⟩
      rw [hcontext] at hcontext'
      cases hcontext'
    | false =>
      by_cases hlogin : ∃ a, plan.LogsIn r a
      · obtain ⟨a, ha⟩ := hlogin
        have htaken := hafter (Plan.ends_loggedIn hstore henter hcontext ha) hissued
        exact ⟨fun h => ⟨⟨⟨_, _, _, hcontext⟩, a, ha⟩, h.isSome_live⟩, fun h => htaken h.2⟩
      · refine iff_of_false (hnot (Plan.ends_innocent_of_autoSave hstore henter hcontext ?_)) fun h => hlogin h.1.2
        exact fun a ha => hlogin ⟨a, ha⟩

/-- A session has been opened, and nobody has logged in yet. -/
def plantedDesk : Desk Sessions where
  backend := newDesk.backend.create.2

/-- What the request of `ann` leaves behind. -/
def deskOfAnn : Desk Sessions :=
  basicOnly.after plantedDesk [.request .ofAnnInSession Flow.allRight]

theorem fetch_deskOfAnn :
    (deskOfAnn.backend.fetch (Ulid.ofNat 0)).1 = some ⟨some ⟨"ann", [], true, .httpBasic⟩⟩ ∧
      deskOfAnn.backend.issued = plantedDesk.backend.issued := by
  decide +kernel

theorem presented_ofAnnInSession : basicOnly.presented .ofAnnInSession = some (Ulid.ofNat 0) := by
  decide

theorem not_authenticates_planted : ¬ plantedDesk.backend.Authenticates (Ulid.ofNat 0) := by
  have hfetch : (plantedDesk.backend.fetch (Ulid.ofNat 0)).1 = none := by decide
  rintro ⟨c, hc, -⟩
  rw [Sessions.Offers, hfetch] at hc
  cases hc

/-- The session that `ann` presents holds nobody, and afterwards it holds `ann`. -/
theorem planted_session_taken : basicOnly.presented .ofAnnInSession = some (Ulid.ofNat 0) ∧
    ¬ plantedDesk.backend.Authenticates (Ulid.ofNat 0) ∧ deskOfAnn.backend.Authenticates (Ulid.ofNat 0) :=
  ⟨presented_ofAnnInSession, not_authenticates_planted, _, fetch_deskOfAnn.1, rfl⟩

theorem savesBasicLogin_ofAnnInSession : Chain.basicOnly.SavesBasicLogin .ofAnnInSession where
  saves := ⟨_, _, _, List.mem_cons_self⟩
  crosses := by simp [Chain.basicOnly]
  passesForm := by simp [Chain.basicOnly]
  earned := ⟨_, _, ⟨"ann", [], true, .httpBasic⟩, List.mem_cons_of_mem _ List.mem_cons_self, by decide +kernel⟩

/-- The login of `ann` is saved in the session that she presents. -/
theorem presented_session_authenticates_ann : Chain.basicOnly.SavesBasicLogin .ofAnnInSession ∧
    (deskOfAnn.backend.live? (Ulid.ofNat 0)).isSome = true ∧ deskOfAnn.backend.Authenticates (Ulid.ofNat 0) := by
  have hissued : ¬ plantedDesk.backend.Issues deskOfAnn.backend (Ulid.ofNat 0) := by
    rintro ⟨n, hn, hlt, -⟩
    rw [fetch_deskOfAnn.2] at hlt
    exact absurd hn (Nat.not_le_of_lt hlt)
  have hlive : (deskOfAnn.backend.live? (Ulid.ofNat 0)).isSome = true := by
    obtain ⟨session, hsession, -⟩ := Sessions.offers_iff.1 fetch_deskOfAnn.1
    rw [hsession]
    rfl
  have hdistinct : plantedDesk.backend.Distinct := Sessions.Distinct.create List.nodup_nil
  refine ⟨savesBasicLogin_ofAnnInSession, hlive, ?_⟩
  exact (presented_session_authenticates_iff ⟨rfl, rfl⟩ rfl Chain.build_basicOnly Sessions.store_inMemory rfl
    presented_ofAnnInSession hdistinct not_authenticates_planted Flow.quiet_allRight hissued).2
    ⟨savesBasicLogin_ofAnnInSession, hlive⟩

end Guard

end Portcullis
