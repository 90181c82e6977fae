import Portcullis.Proofs.Guard.Hosting
import Portcullis.Proofs.Pipeline.Contract
import Portcullis.Proofs.Pipeline.Effects
import Portcullis.Proofs.Session.Keeping

/-!
# Where authentications come from

Whoever is logged in has given a password. In every run of a guard whose host leaves logins alone, from a store without
sessions on, a context in a session can be traced back, from request to request and from id to id, to one that brought
along the exact password of an enabled account; and what a handler finds is nobody, the anonymous authentication, or one
that its own request has earned or found in the session it presents.

The invariant of a request is `Passage.Accounted`; each stage keeps it (`Passage.Accounted.keeps`).
-/

namespace Portcullis

variable {σ : Type}

/-! ## Passwords -/

/-- The request brings a name and a password along for the stage: in the form that the stage takes, or in the header
that it reads. -/
inductive Stage.Takes (r : Request) (username password : String) : Stage σ → AuthenticationKind → Prop
  | form {f : FormLogin} {users : Users} (hform : f.isSubmission r = true)
    (hbody : f.credentials? (r.body.getD "") = some (username, password)) :
    Takes r username password (.formLogin f users) .formLogin
  | basic {realm header : String} {users : Users} (hheader : r.header? "authorization" = some header)
    (hannounced : HttpBasic.isAnnounced header = true)
    (hcode : HttpBasic.credentials? header = some (username, password)) :
    Takes r username password (.httpBasic realm users) .httpBasic
  | entered {note : σ → σ} {inner : Stage σ} {kind : AuthenticationKind} (h : Takes r username password inner kind) :
    Takes r username password (.entered note inner) kind

/-- The authentication is that of an enabled account, and the request brings the account's exact password along for a
stage of its chain. -/
def Guard.Earns (g : Guard σ) (shared : Shared σ) (r : Request) (a : Authentication) : Prop :=
  ∃ users u kind c stage, shared.users = some users ∧ users.find? u.username = some u ∧ u.enabled = true ∧
    g.chainFor? r.path = some c ∧ stage ∈ c.stages ∧ stage.Takes r u.username u.password kind ∧
    a = ⟨u.username, u.authorities, true, kind⟩

/-- The authentication that a request earns at a stage. -/
def Stage.earns (r : Request) : Stage σ → Option Authentication
  | .formLogin f users => if f.isSubmission r then f.verdict users r else none
  | .httpBasic _ users => (HttpBasic.verdict users r).join
  | .entered _ inner => inner.earns r
  | _ => none

/-- Nothing is earned without the password of an account. -/
theorem Stage.Tame.takes {view : σ → Sessions} {shared : Shared σ} {stage : Stage σ} (htame : stage.Tame view shared)
    {r : Request} {a : Authentication} (h : stage.earns r = some a) :
    ∃ users u kind, shared.users = some users ∧ users.find? u.username = some u ∧ u.enabled = true ∧
      stage.Takes r u.username u.password kind ∧ a = u.authentication kind ∧ kind ≠ .anonymous := by
  induction htame with
  | formLogin f husers =>
    rw [earns] at h
    split at h
    · obtain ⟨u, hbody, huser, henabled, rfl⟩ := Users.admit?_eq_some_iff.1 h
      exact ⟨_, u, .formLogin, husers, huser, henabled, .form ‹_› hbody, rfl, nofun⟩
    · cases h
  | httpBasic realm husers =>
    obtain ⟨header, hheader, hadmit⟩ := Option.map_eq_some_iff.1 (Option.join_eq_some_iff.1 h)
    obtain ⟨hheader, hannounced⟩ := Option.filter_eq_some_iff.1 hheader
    obtain ⟨u, hcode, huser, henabled, rfl⟩ := Users.admit?_eq_some_iff.1 hadmit
    exact ⟨_, u, .httpBasic, husers, huser, henabled, .basic hheader hannounced hcode, rfl, nofun⟩
  | entered hnote _ ih =>
    obtain ⟨users, u, kind, husers, huser, henabled, htakes, ha, hkind⟩ := ih h
    exact ⟨users, u, kind, husers, huser, henabled, .entered htakes, ha, hkind⟩
  | _ => cases h

/-! ## Within a request -/

/-- Where the contexts in sessions come from, in the middle of a request: those in the request's own session are `good`,
the others are good or have been `known` before. -/
structure Sessions.Credited (good : Authentication → Prop) (known : SessionId → Authentication → Prop)
    (session : Option SessionId) (s : Sessions) : Prop where
  all : ∀ i c, s.Holds i c → ∃ a, c = ⟨some a⟩ ∧ (good a ∨ known i a)
  own : ∀ i, session = some i → ∀ c, s.Holds i c → ∃ a, c = ⟨some a⟩ ∧ good a

namespace Sessions.Credited

variable {good : Authentication → Prop} {known : SessionId → Authentication → Prop} {session : Option SessionId}
  {s t : Sessions}

theorem sheds (h : s.Credited good known session) (hsheds : s.Sheds t) : t.Credited good known session where
  all i c hc := h.all i c (hsheds.holds i c hc)
  own i hi c hc := h.own i hi c (hsheds.holds i c hc)

theorem keeps (h : s.Credited good known session) {id : SessionId} {a : Authentication}
    (hkeeps : s.Keeps id ⟨some a⟩ t) (ha : good a) : t.Credited good known session where
  all i c hc := by
    by_cases hi : i = id
    · subst hi
      exact ⟨a, hkeeps.only c hc, .inl ha⟩
    · exact h.all i c (hkeeps.others i c hi hc)
  own i hi c hc := by
    by_cases hid : i = id
    · subst hid
      exact ⟨a, hkeeps.only c hc, ha⟩
    · exact h.own i hi c (hkeeps.others i c hid hc)

theorem opens (h : s.Credited good known session) {id : SessionId} (hopens : s.Opens id t) :
    t.Credited good known (some id) where
  all i c hc := h.all i c (hopens.others i c hc)
  own i hi c hc := by
    cases hi
    exact absurd hc (hopens.only c)

theorem moves (h : s.Credited good known session) {id fresh : SessionId} (hid : session = some id)
    (hmoves : s.Moves id fresh t) : t.Credited good known (some fresh) where
  all i c hc := by
    by_cases hi : i = fresh
    · subst hi
      obtain ⟨a, rfl, ha⟩ := h.own id hid c (hmoves.moved c hc)
      exact ⟨a, rfl, .inl ha⟩
    · exact h.all i c (hmoves.others i c hi hc).2
  own i hi c hc := by
    cases hi
    exact h.own id hid c (hmoves.moved c hc)

/-- A context that is worth keeping is good, and may be saved. -/
theorem saved {visit visit' : Visit} {c : SecurityContext} (h : s.Credited good known visit.session)
    (hc : ∀ a, c.authentication = some a → a = .anonymous ∨ good a) (hsaved : Repository.Saved visit s c visit' t) :
    t.Credited good known visit'.session := by
  have hgood (hp : c.isPersistable = true) : ∃ a, c = ⟨some a⟩ ∧ good a := by
    obtain ⟨_ | a⟩ := c
    · simp [SecurityContext.isPersistable] at hp
    · refine ⟨a, rfl, (hc a rfl).resolve_left ?_⟩
      rintro rfl
      simp [SecurityContext.isPersistable, Authentication.isAnonymous, Authentication.anonymous] at hp
  cases hsaved with
  | nothing hsheds _ => exact h.sheds hsheds
  | kept hid hp hkeeps =>
    obtain ⟨a, rfl, ha⟩ := hgood hp
    exact h.keeps hkeeps ha
  | opened hopens hkept _ =>
    rcases hkept with hsheds | ⟨hp, hkeeps⟩
    · exact (h.opens hopens).sheds hsheds
    · obtain ⟨a, rfl, ha⟩ := hgood hp
      exact (h.opens hopens).keeps hkeeps ha

end Sessions.Credited

/-- Where everything that a passage carries comes from, in the middle of the request `r`. -/
structure Passage.Accounted (store : Store σ) (view : σ → Sessions) (r : Request) (good : Authentication → Prop)
    (known : SessionId → Authentication → Prop) (p : Passage σ) : Prop where
  request : p.exchange.request = r
  context : ∀ a, p.exchange.context.authentication = some a → a = .anonymous ∨ good a
  hook : ∀ repository, p.exchange.hook = some repository → repository.Over store
  repository : ∀ repository, p.exchange.repository = some repository → repository.Over store
  sessions : (view p.backend).Credited good known p.exchange.session

theorem Repository.Saved.request {visit visit' : Visit} {s t : Sessions} {c : SecurityContext}
    (h : Saved visit s c visit' t) : visit'.request = visit.request := by
  cases h <;> rfl

namespace Passage.Accounted

variable {store : Store σ} {view : σ → Sessions} {r : Request} {good : Authentication → Prop}
  {known : SessionId → Authentication → Prop} {p q : Passage σ} {repository : Repository σ}

theorem undisturbed (h : p.Accounted store view r good known) (hq : p.Undisturbed view q) :
    q.Accounted store view r good known where
  request := hq.request.trans h.request
  context a ha := h.context a (hq.context ▸ ha)
  hook repository hr := h.hook repository (hq.hook ▸ hr)
  repository repository hr := h.repository repository (hq.repository ▸ hr)
  sessions := by
    rw [hq.session]
    exact h.sessions.sheds hq.sheds

theorem authenticate (h : p.Accounted store view r good known) {a : Authentication} (ha : a = .anonymous ∨ good a) :
    ({ p with exchange := p.exchange.authenticate a } : Passage σ).Accounted store view r good known where
  request := h.request
  context b hb := by
    obtain rfl : a = b := by simpa [Exchange.authenticate] using hb
    exact ha
  hook := h.hook
  repository := h.repository
  sessions := h.sessions

theorem setState (h : p.Accounted store view r good known) (state : ContextState) :
    ({ p with exchange := { p.exchange with state } } : Passage σ).Accounted store view r good known :=
  ⟨h.request, h.context, h.hook, h.repository, h.sessions⟩

theorem setDecision (h : p.Accounted store view r good known) (decision : Option Cors.Decision) :
    ({ p with exchange := { p.exchange with decision } } : Passage σ).Accounted store view r good known :=
  ⟨h.request, h.context, h.hook, h.repository, h.sessions⟩

theorem setMetrics (h : p.Accounted store view r good known) (metrics : Metrics) :
    ({ p with metrics } : Passage σ).Accounted store view r good known :=
  ⟨h.request, h.context, h.hook, h.repository, h.sessions⟩

theorem setHook (h : p.Accounted store view r good known) {hook : Option (Repository σ)}
    (hhook : ∀ repository, hook = some repository → repository.Over store) :
    ({ p with exchange := { p.exchange with hook } } : Passage σ).Accounted store view r good known :=
  ⟨h.request, h.context, hhook, h.repository, h.sessions⟩

theorem mark (h : p.Accounted store view r good known) (name : String) :
    ({ p with exchange := p.exchange.mark name } : Passage σ).Accounted store view r good known := by
  unfold Exchange.mark
  split
  · exact h
  · exact ⟨h.request, h.context, h.hook, h.repository, h.sessions⟩

section InMemory

variable (hstore : store.InMemory view)
include hstore

theorem save (h : p.Accounted store view r good known) (hr : repository.Over store) :
    (p.revisit (repository.save p.exchange.context (p.exchange.toVisit, p.backend)).2).Accounted store view r good
      known := by
  cases hr with
  | none => exact h
  | inSession allow always =>
    obtain ⟨result, visit, t, hsave, hsaved⟩ :=
      Repository.save_cases hstore allow always p.exchange.context p.exchange.toVisit p.backend
    rw [hsave]
    exact ⟨hsaved.request.trans h.request, h.context, h.hook, h.repository, h.sessions.saved h.context hsaved⟩

theorem rotate (h : p.Accounted store view r good known) (hr : repository.Over store) :
    (p.revisit (repository.rotate (p.exchange.toVisit, p.backend)).2).Accounted store view r good known := by
  cases hr with
  | none => exact h
  | inSession allow always =>
    obtain ⟨b, visit, t, hrotate, ⟨id, fresh, hid, rfl, hmoves⟩ | ⟨rfl, hsheds, -⟩⟩ :=
      Repository.rotate_cases hstore allow always p.exchange.toVisit p.backend
    · rw [hrotate]
      exact ⟨h.request, h.context, h.hook, h.repository, h.sessions.moves hid hmoves⟩
    · rw [hrotate]
      exact ⟨h.request, h.context, h.hook, h.repository, h.sessions.sheds hsheds⟩

theorem loadContext (h : p.Accounted store view r good known) (hr : repository.Over store) :
    (Flow.loadContext repository p).2.Accounted store view r good known := by
  rw [Flow.loadContext_apply]
  cases hr with
  | none =>
    refine ⟨h.request, nofun, h.hook, ?_, h.sessions⟩
    rintro _ ⟨⟩
    exact .none
  | inSession allow always =>
    obtain ⟨c, t, hload, hsheds, hc⟩ := Repository.load_cases hstore allow always p.exchange.toVisit p.backend
    rw [hload]
    refine ⟨h.request, ?_, h.hook, ?_, h.sessions.sheds hsheds⟩
    · intro a ha
      rcases hc with rfl | ⟨id, hid, hheld, -⟩
      · cases ha
      · obtain ⟨b, rfl, hb⟩ := h.sessions.own id hid c hheld
        cases ha
        exact .inr hb
    · rintro _ ⟨⟩
      exact .inSession _ _

theorem saveContext (h : p.Accounted store view r good known) :
    (Flow.saveContext p).2.Accounted store view r good known :=
  Flow.keeps_saveContext h (fun repository hr => h.save hstore (h.hook repository hr)) fun _ state hq =>
    hq.setState state

theorem rotateSession (h : p.Accounted store view r good known) :
    (Flow.rotateSession p).2.Accounted store view r good known :=
  Flow.keeps_rotateSession h fun repository hr => h.rotate hstore (h.repository repository hr)

theorem succeed (h : p.Accounted store view r good known) (f : FormLogin) {a : Authentication} (ha : good a) :
    (f.succeed a p).2.Accounted store view r good known := by
  have hrotated := h.rotateSession hstore
  rw [f.succeed_snd]
  split
  · exact (hrotated.authenticate (.inr ha)).saveContext hstore
  · exact hrotated

end InMemory

end Passage.Accounted

/-! ## Stages -/

section Stages

variable {store : Store σ} {view : σ → Sessions} {r : Request} {good : Authentication → Prop}
  {known : SessionId → Authentication → Prop}

theorem Program.Quiet.keeps {code : Program σ} (hcode : code.Quiet view) (n : Nat) {p : Passage σ}
    (hp : p.Accounted store view r good known) : (code.transit n p).Keeps (·.Accounted store view r good known) := by
  induction hcode generalizing p with
  | answer response => exact hp
  | fail failure => exact hp
  | look h ih => exact ih _ hp
  | ahead h ih => exact ih _ hp
  | touch hf h ih => exact ih _ ⟨hp.request, hp.context, hp.hook, hp.repository, hp.sessions.sheds (hf _)⟩
  | queue name value h ih => exact ih ⟨hp.request, hp.context, hp.hook, hp.repository, hp.sessions⟩
  | mark name h ih => exact ih _ (hp.mark name)
  | pass h ih => exact ⟨hp, fun outcome q hq => ih outcome hq⟩

variable [Clocked σ]

/-- A stage keeps everything accounted for, if what is earned there is good. -/
theorem Passage.Accounted.keeps {shared : Shared σ} (hstore : shared.store.InMemory view) {stage : Stage σ}
    (htame : stage.Tame view shared) (hearns : ∀ a, stage.earns r = some a → good a) :
    stage.Keeps (·.Accounted shared.store view r good known) := by
  induction htame with
  | tracing => exact Stage.keeps_tracing
  | metrics => exact Stage.keeps_metrics fun p metrics hp => hp.setMetrics metrics
  | cors source reject => exact Stage.keeps_cors fun p decision hp => hp.setDecision decision
  | autoSave h =>
    exact Stage.keeps_autoSave (fun p hp => (hp.mark _).loadContext hstore h) (fun p hp => hp.save hstore h)
      fun p state hp => hp.setState state
  | explicitSave h =>
    refine Stage.keeps_explicitSave (fun p hp => (hp.mark _).loadContext hstore h) fun p hook state hhook hp => ?_
    exact (hp.setHook fun repository hr => hhook repository hr ▸ h).setState state
  | formLogin settings husers =>
    refine Stage.keeps_formLogin fun p a hp hform ha => hp.succeed hstore settings (hearns a ?_)
    rw [hp.request] at hform ha
    rw [Stage.earns, if_pos hform, ha]
  | httpBasic realm husers =>
    refine Stage.keeps_httpBasic fun p a hp ha => hp.authenticate (.inr (hearns a ?_))
    rw [hp.request] at ha
    rw [Stage.earns, ha]
    rfl
  | anonymous => exact Stage.keeps_anonymous fun p hp _ => hp.authenticate (.inl rfl)
  | authorization rules entry => exact Stage.keeps_authorization
  | custom name hcode => exact fun n p hp => hcode.keeps n hp
  | entered hnote h ih =>
    exact fun n p hp => ih hearns n _ ⟨hp.request, hp.context, hp.hook, hp.repository, hp.sessions.sheds (hnote _)⟩

end Stages

/-! ## Runs -/

namespace Guard

variable [Clocked σ]

/-- The session of `id` holds the authentication after the events, the latest of which stands first, and that can be
traced back to a request that has earned it. -/
inductive Traced (g : Guard σ) (shared : Shared σ) (view : σ → Sessions) (d : Desk σ) :
    List (Event σ) → SessionId → Authentication → Prop
  /-- The last request has earned it, and stored it there. -/
  | stored {past : List (Event σ)} {r : Request} {handler : Flow σ Response} {id : SessionId} {a : Authentication}
    (hheld : (view (g.after d (.request r handler :: past)).backend).Holds id ⟨some a⟩)
    (hearns : g.Earns shared r a) : Traced g shared view d (.request r handler :: past) id a
  /-- The last request has found it in the session that it presented, and stored or moved it there. -/
  | carried {past : List (Event σ)} {r : Request} {handler : Flow σ Response} {source id : SessionId}
    {a : Authentication} (hheld : (view (g.after d (.request r handler :: past)).backend).Holds id ⟨some a⟩)
    (hpresented : g.presented r = some source) (htraced : Traced g shared view d past source a) :
    Traced g shared view d (.request r handler :: past) id a
  /-- It has been there before. -/
  | kept {e : Event σ} {past : List (Event σ)} {id : SessionId} {a : Authentication}
    (hheld : (view (g.after d (e :: past)).backend).Holds id ⟨some a⟩) (htraced : Traced g shared view d past id a) :
    Traced g shared view d (e :: past) id a

variable {g : Guard σ} {shared : Shared σ} {view : σ → Sessions} {d : Desk σ}

/-- What has been traced was earned by a request among the events, and stored by it. -/
theorem Traced.exists_request {history : List (Event σ)} {id : SessionId} {a : Authentication}
    (h : g.Traced shared view d history id a) :
    ∃ later r handler past id', history = later ++ .request r handler :: past ∧ g.Earns shared r a ∧
      (view (g.after d (.request r handler :: past)).backend).Holds id' ⟨some a⟩ := by
  induction h with
  | stored hheld hearns => exact ⟨[], _, _, _, _, rfl, hearns, hheld⟩
  | carried hheld hpresented htraced ih =>
    obtain ⟨later, r, handler, past, id', rfl, h⟩ := ih
    exact ⟨_ :: later, r, handler, past, id', rfl, h⟩
  | kept hheld htraced ih =>
    obtain ⟨later, r, handler, past, id', rfl, h⟩ := ih
    exact ⟨_ :: later, r, handler, past, id', rfl, h⟩

/-- What is good in a request: what it has earned, and what it may find in the session that it presents. -/
def Good (g : Guard σ) (shared : Shared σ) (known : SessionId → Authentication → Prop) (r : Request)
    (a : Authentication) : Prop :=
  g.Earns shared r a ∨ ∃ id, g.presented r = some id ∧ known id a

omit [Clocked σ] in
/-- At the start of a request everything is accounted for. -/
theorem accounted_enter {known : SessionId → Authentication → Prop}
    (hknown : ∀ i c, (view d.backend).Holds i c → ∃ a, c = ⟨some a⟩ ∧ known i a) (r : Request) :
    (g.enter r d).Accounted shared.store view r (g.Good shared known r) known where
  request := rfl
  context := nofun
  hook := nofun
  repository := nofun
  sessions := {
    all := fun i c hc => by
      obtain ⟨a, rfl, ha⟩ := hknown i c hc
      exact ⟨a, rfl, .inr ha⟩
    own := fun i hi c hc => by
      obtain ⟨a, rfl, ha⟩ := hknown i c hc
      exact ⟨a, rfl, .inr ⟨i, hi, ha⟩⟩ }

omit [Clocked σ] in
/-- The stages of the guard are tame, because its chains have been built from what a host that leaves logins alone has
asked for. -/
theorem tame_of_built (hg : ∀ c ∈ g.chains, ∃ b : Blueprint σ, b.Tame view shared ∧ b.build shared = .ok c) :
    ∀ c ∈ g.chains, ∀ stage ∈ c.stages, stage.Tame view shared := by
  intro c hc
  obtain ⟨b, hb, hbuild⟩ := hg c hc
  exact Blueprint.stages_tame hb hbuild

/-- Throughout a request everything stays accounted for. -/
theorem accounted_transit (hstore : shared.store.InMemory view)
    (hg : ∀ c ∈ g.chains, ∃ b : Blueprint σ, b.Tame view shared ∧ b.build shared = .ok c)
    {known : SessionId → Authentication → Prop}
    (hknown : ∀ i c, (view d.backend).Holds i c → ∃ a, c = ⟨some a⟩ ∧ known i a) (r : Request) :
    (g.transit (g.enter r d)).Keeps (·.Accounted shared.store view r (g.Good shared known r) known) := by
  have henter : (g.enter r d).Accounted shared.store view r (g.Good shared known r) known := accounted_enter hknown r
  rw [transit]
  cases hchain : g.chainFor? (g.enter r d).exchange.request.path with
  | none => exact Transit.keeps_pass henter
  | some c =>
    refine Pipeline.keeps (fun stage hstage => ?_) henter
    have htame := tame_of_built hg c (List.mem_of_find?_eq_some hchain) stage hstage
    refine Passage.Accounted.keeps hstore htame fun a ha => .inl ?_
    obtain ⟨users, u, kind, husers, huser, henabled, htakes, rfl, -⟩ := htame.takes ha
    exact ⟨users, u, kind, c, stage, husers, huser, henabled, hchain, hstage, htakes, rfl⟩

/-- After any events, a context in a session can be traced back to the password that has earned it; and a handler that
is started next finds nobody, the anonymous authentication, one that its request has earned, or one that can be traced
back from the session that its request presents. -/
theorem contexts_traced_to_passwords (hstore : shared.store.InMemory view)
    (hg : ∀ c ∈ g.chains, ∃ b : Blueprint σ, b.Tame view shared ∧ b.build shared = .ok c)
    (hempty : (view d.backend).held = []) {history : List (Event σ)} (hquiet : ∀ e ∈ history, e.Quiet view) :
    (∀ id c, (view (g.after d history).backend).Holds id c →
      ∃ a, c = ⟨some a⟩ ∧ g.Traced shared view d history id a) ∧
    ∀ r handler, handler.Quiet view → ∀ q ∈ g.starts handler (g.enter r (g.after d history)),
      ∀ a, q.exchange.context.authentication = some a →
        a = .anonymous ∨ g.Earns shared r a ∨
          ∃ id, g.presented r = some id ∧ g.Traced shared view d history id a := by
  have hheld : ∀ id c, (view (g.after d history).backend).Holds id c →
      ∃ a, c = ⟨some a⟩ ∧ g.Traced shared view d history id a := by
    induction history with
    | nil =>
      rintro id c ⟨session, hmem, -⟩
      rw [after, hempty] at hmem
      cases hmem
    | cons e past ih =>
      rw [List.forall_mem_cons] at hquiet
      have hpast := ih hquiet.2
      intro id c hc
      cases e with
      | meanwhile f =>
        obtain ⟨a, rfl, ha⟩ := hpast id c ((hquiet.1 _).holds id c hc)
        exact ⟨a, rfl, .kept hc ha⟩
      | request r handler =>
        have hafter := (accounted_transit hstore hg hpast r).run fun p hp => hp.undisturbed (hquiet.1 p)
        rw [run_transit] at hafter
        obtain ⟨a, rfl, (hearns | ⟨source, hpresented, hsource⟩) | hkept⟩ := hafter.sessions.all id c hc
        · exact ⟨a, rfl, .stored hc hearns⟩
        · exact ⟨a, rfl, .carried hc hpresented hsource⟩
        · exact ⟨a, rfl, .kept hc hkept⟩
  refine ⟨hheld, fun r handler hhandler q hq a ha => ?_⟩
  have hq' := (accounted_transit hstore hg hheld r).of_mem_asked (fun p hp => hp.undisturbed (hhandler p)) q hq
  exact hq'.context a ha

/-- The request of `ann`, and nothing else. -/
def visitOfAnn : List (Event Sessions) :=
  [.request .ofAnn Flow.allRight]

theorem held_after_visitOfAnn : (basicOnly.after newDesk visitOfAnn).backend.held =
    [(Ulid.ofNat 0, { context := some ⟨some ⟨"ann", [], true, .httpBasic⟩⟩, lastUsed := 0 })] := by
  decide +kernel

/-- After that request, the first session holds the authentication of `ann`, and it can be traced back. -/
theorem ann_traced_to_password :
    (basicOnly.after newDesk visitOfAnn).backend.Holds (Ulid.ofNat 0) ⟨some ⟨"ann", [], true, .httpBasic⟩⟩ ∧
      basicOnly.Traced Shared.ofAnn id newDesk visitOfAnn (Ulid.ofNat 0) ⟨"ann", [], true, .httpBasic⟩ := by
  have hbuilt : ∀ c ∈ basicOnly.chains, ∃ b : Blueprint Sessions, b.Tame id Shared.ofAnn ∧
      b.build Shared.ofAnn = .ok c :=
    List.forall_mem_singleton.2 ⟨_, Blueprint.Plain.tame ⟨rfl, rfl⟩ rfl, Chain.build_basicOnly⟩
  have hquiet : ∀ e ∈ visitOfAnn, e.Quiet id := List.forall_mem_singleton.2 Flow.quiet_allRight
  have hheld : (basicOnly.after newDesk visitOfAnn).backend.Holds (Ulid.ofNat 0)
      ⟨some ⟨"ann", [], true, .httpBasic⟩⟩ :=
    ⟨_, by rw [held_after_visitOfAnn]; exact List.mem_singleton_self _, rfl⟩
  obtain ⟨a, ha, htraced⟩ :=
    (contexts_traced_to_passwords Sessions.store_inMemory hbuilt rfl hquiet).1 (Ulid.ofNat 0) _ hheld
  cases ha
  exact ⟨hheld, htraced⟩

end Guard

end Portcullis
