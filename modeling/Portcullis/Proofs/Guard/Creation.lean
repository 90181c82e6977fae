import Portcullis.Proofs.Guard.Layers
import Portcullis.Proofs.Guard.Ledger
import Portcullis.Proofs.Pipeline.Aside

/-!
# When sessions are opened

Whether a request opens a session is up to the policy of its chain, whatever the handler saves: one at most is opened,
and none where the policy forbids it; where the policy leaves it to need, a session is opened for a context that is to
be kept, and only if the exchange has no live one; and where there is always to be one, there is one when the stage is
left that saves on its exit (`SessionPolicy.Governs`, `Guard.sessions_follow_policy`).

* `Pipeline.governed`: one request.
* `Pipeline.lives_autoSave`: the stage that saves on its exit, where there is always to be a session.
* `Guard.population_after`: requests one after the other, where none may be opened.
-/

namespace Portcullis

variable {σ : Type} {view : σ → Sessions} {policy : SessionPolicy} {store : Store σ}

/-- What a policy says of the sessions before and after a request that has presented a session id, or none. -/
structure SessionPolicy.Governs (policy : SessionPolicy) (start : Sessions) (presented : Option SessionId)
    (journal : Journal σ) (visit : Visit) (t : Sessions) : Prop where
  /-- Under any policy one session is opened at most. -/
  once : t.created ≤ start.created + 1
  stateless : policy = .stateless → t = start
  never : policy = .never → t.population ≤ start.population
  ifRequired : policy = .ifRequired → start.created < t.created → journal.Opening policy start presented
  always : policy = .always → ∀ m ∈ journal, m.deed = .load .onExit true → visit.Lives t

/-! ## One request -/

namespace Sessions.Ledger

variable {start t : Sessions} {presented : Option SessionId} {past : Journal σ} {visit : Visit}

theorem created (h : Ledger policy start presented past visit t) :
    t.created = start.created ∨ t.created = start.created + 1 ∧ past.Opening policy start presented := by
  cases h with
  | calm hstays _ _ _ => exact .inl hstays.created
  | moved _ hcreated _ _ => exact .inl hcreated
  | opened _ hcreated _ hopening => exact .inr ⟨hcreated, hopening⟩

/-- Where no session may be opened, there are no more than before. -/
theorem population (h : Ledger .never start presented past visit t) : t.population ≤ start.population := by
  cases h with
  | calm hstays _ _ _ => exact Nat.le_of_eq hstays.population
  | moved _ _ hpopulation _ => exact hpopulation
  | opened _ _ _ hopening =>
    obtain ⟨_, _, _, -, -, hpolicy, -⟩ := hopening
    simp at hpolicy

/-- Where there is always to be a session, there is one after a save. -/
theorem lives (h : Ledger .always start presented past visit t) {m : Moment σ} (hm : m ∈ past)
    (hsave : m.deed.isSave = true) : visit.Lives t := by
  cases h with
  | calm _ _ _ hsaved => exact hsaved rfl m hm hsave
  | moved _ _ _ hlives => exact hlives
  | opened _ _ hlives _ => exact hlives

end Sessions.Ledger

/-- Where contexts are kept nowhere, no step changes the sessions. -/
theorem Licence.Effect.unchanged {context : SecurityContext} {saves : Bool} {before after : Visit × σ}
    (h : (byPolicy view .stateless store).Effect context saves before after) : view after.2 = view before.2 := by
  cases h with
  | still visit s => rfl
  | behind hf visit s => exact hf s
  | load hr visit s =>
    cases hr
    rfl
  | save hr _ visit s =>
    cases hr
    rfl
  | rotate hr _ visit s =>
    cases hr
    rfl
  | bind hb _ visit s => exact hb.elim
  | queue _ visit s => rfl

theorem Licence.Trace.unchanged {p q : Passage σ} {journal : Journal σ}
    (h : (byPolicy view .stateless store).Trace p journal q) : view q.backend = view p.backend := by
  refine h.invariant (fun q _ => view q.backend = view p.backend) ?_ [] rfl
  intro q m q' _ hq hstep
  exact hstep.effect.unchanged.trans hq

/-- A stage that saves on its exit, and that has loaded the context, saves it. -/
theorem Course.exists_save {journal : Journal σ} {e : Exchange σ} (h : Course journal e) {m : Moment σ}
    (hm : m ∈ journal) (hload : m.deed = .load .onExit true) : ∃ m' ∈ journal, m'.deed.isSave = true := by
  obtain ⟨ok, hsaves⟩ := h.lifecycle.saves m hm hload
  have hsave : Deed.save .onExit ok ∈ (journal.map (·.deed)).filter Deed.isSave := by
    rw [hsaves]
    exact List.mem_singleton_self _
  obtain ⟨hdeeds, hissave⟩ := List.mem_filter.1 hsave
  obtain ⟨m', hm', hdeed⟩ := List.mem_map.1 hdeeds
  exact ⟨m', hm', hdeed ▸ hissave⟩

/-- A run of a host that leaves sessions to the policy, on an exchange about whose context nothing has been done. -/
theorem Pipeline.governed [Clocked σ] (hstore : store.Prompt view) {stages : List (Stage σ)}
    (hstages : ∀ stage ∈ stages, stage.Within (.byPolicy view policy store)) {code : Program σ}
    (hcode : code.Within (.byPolicy view policy store)) {r : Request} {p : Passage σ}
    (hp : p.Held (.byPolicy view policy store) r) (hmarked : p.exchange.isMarked Stage.contextMark = false)
    (huntouched : p.exchange.Untouched) (hd : (view p.backend).Distinct) :
    ∃ outcome q journal, Pipeline.noted code.handleNoted stages (p, []) = (outcome, q, journal) ∧
      Pipeline.run code.handle stages p = (outcome, q) ∧
      policy.Governs (view p.backend) p.exchange.session journal q.exchange.toVisit (view q.backend) ∧
      (view q.backend).Distinct := by
  obtain ⟨outcome, q, journal, hnoted, hrun, htrace, -⟩ := Pipeline.exists_trace hcode hstages hp (.inl trivial)
  have hledger := htrace.ledger hstore hd
  refine ⟨outcome, q, journal, hnoted, hrun, ⟨?_, ?_, ?_, ?_, ?_⟩, hledger.distinct hd⟩
  · rcases hledger.created with hsame | ⟨hone, -⟩
    · omega
    · omega
  · rintro rfl
    exact htrace.unchanged
  · rintro rfl
    exact hledger.population
  · intro _ hmore
    rcases hledger.created with hsame | ⟨-, hopening⟩
    · omega
    · exact hopening
  · rintro rfl m hm hload
    -- The stage that has loaded the context has saved it.
    obtain ⟨m', hm', hsave⟩ := (Pipeline.course_of_noted hmarked huntouched hnoted).exists_save hm hload
    exact hledger.lives hm' hsave

/-! ## The stage that saves on its exit -/

/-- Where loading succeeds, the stage does nothing of its own but to save. -/
theorem Stage.runAutoSave_snd {repository : Repository σ} (rest : Ahead σ) {p q : Passage σ}
    (hmarked : p.exchange.isMarked contextMark = false)
    (hload : Flow.loadContext repository { p with exchange := p.exchange.mark contextMark } = (.ok (), q)) :
    ∃ state, (runAutoSave repository rest p).2 =
      let inner := (rest.run q).2
      let saved := inner.revisit (repository.save inner.exchange.context (inner.exchange.toVisit, inner.backend)).2
      { saved with exchange := { saved.exchange with state } } := by
  have hrun : runAutoSave repository rest p =
      (do settle (rest.run q).1 (← Flow.onVisit (repository.save (rest.run q).2.exchange.context))) (rest.run q).2 := by
    simp only [runAutoSave, once, Flow.exchange, Flow.update, Flow.outcome, Steps.bind_apply, hmarked, hload,
      Bool.false_eq_true, if_false]
  rw [hrun]
  exact settle_snd _ _ _

/-- A stage that saves on its exit loads the context; no session comes to life by that, and none dies. -/
theorem Passage.load_stays (hstore : store.Prompt view) (allow always : Bool) (p : Passage σ) :
    ∃ c s, Flow.loadContext (.inSession store allow always) { p with exchange := p.exchange.mark Stage.contextMark } =
        (.ok (), Plan.loaded (.inSession store allow always) c s p) ∧
      (view p.backend).Stays (view s) := by
  obtain ⟨c, s, hload, hstays⟩ := Repository.load_stays hstore allow always p.exchange.toVisit p.backend
  refine ⟨c, s, ?_, hstays⟩
  rw [Flow.loadContext_apply]
  simp only [Exchange.mark_toVisit, hload, Plan.loaded]

theorem Passage.Held.loaded {l : Licence σ} {r : Request} {p : Passage σ} (hp : p.Held l r)
    {repository : Repository σ} (hr : l.repositories repository) (c : SecurityContext) (s : σ) :
    (Plan.loaded repository c s p).Held l r where
  request := (congrArg Visit.request (Plan.loaded_visit ..)).trans hp.request
  hook other h := hp.hook other ((Plan.loaded_hook ..).symm.trans h)
  repository other h := by
    cases h
    exact hr

/-- Where there is always to be a session, the exchange has a live one when the stage is left that saves on its exit. -/
theorem Pipeline.lives_autoSave [Clocked σ] (hstore : store.Prompt view) {after : List (Stage σ)}
    (hafter : ∀ stage ∈ after, stage.Within (.byPolicy view .always store)) {code : Program σ}
    (hcode : code.Within (.byPolicy view .always store)) {r : Request} {p : Passage σ}
    (hp : p.Held (.byPolicy view .always store) r) (hmarked : p.exchange.isMarked Stage.contextMark = false)
    (hd : (view p.backend).Distinct) :
    let q := (Pipeline.run code.handle (.autoSave (Blueprint.defaultRepository .always store) :: after) p).2
    q.exchange.toVisit.Lives (view q.backend) := by
  obtain ⟨c, s, hloaded, hstays⟩ := p.load_stays hstore true true
  have hheld : (Plan.loaded (.inSession store true true) c s p).Held (.byPolicy view .always store) r :=
    hp.loaded rfl c s
  have hd' := hstays.distinct hd
  -- The sessions are as they were, up to what the stages after this one and the handler do.
  obtain ⟨outcome, q, journal, -, hrun, htrace, -⟩ := Pipeline.exists_trace hcode hafter hheld (.inl trivial)
  have hdistinct := (htrace.ledger hstore hd').distinct hd'
  obtain ⟨visit, t, hsave, hsaves⟩ :=
    Repository.save_counts hstore true true q.exchange.context q.exchange.toVisit hdistinct
  obtain ⟨state, hafterwards⟩ :=
    Stage.runAutoSave_snd ⟨after.length, Pipeline.run code.handle after⟩ hmarked hloaded
  have hstage : Pipeline.run code.handle (.autoSave (Blueprint.defaultRepository .always store) :: after) p =
      Stage.runAutoSave (.inSession store true true) ⟨after.length, Pipeline.run code.handle after⟩ p := rfl
  simp only [hrun, hsave] at hafterwards
  rw [hstage, hafterwards]
  cases hsaves with
  | stays h hwhy =>
    have hlives : q.exchange.toVisit.Lives (view q.backend) := hwhy.resolve_right (by simp)
    exact hlives.stays h
  | opens h _ _ _ => exact ⟨_, rfl, (h.alive _).2 (.inl rfl)⟩

/-! ## Requests one after the other -/

namespace Guard

/-- The chains have been built, over the store that they share, for hosts that leave sessions to this policy. -/
def FollowsPolicy (g : Guard σ) (view : σ → Sessions) (policy : SessionPolicy) (shared : Shared σ) : Prop :=
  ∀ c ∈ g.chains, ∃ b : Blueprint σ, b.build shared = .ok c ∧ b.session.policy = policy ∧
    b.Within shared (.byPolicy view policy shared.store)

/-- Requests are served with handlers that leave sessions to the policy; meanwhile time passes, and dead sessions are
swept out. -/
inductive Event.ByPolicy (view : σ → Sessions) (policy : SessionPolicy) (store : Store σ) : Event σ → Prop
  | request (r : Request) {code : Program σ} (h : code.Within (.byPolicy view policy store)) :
    ByPolicy view policy store (.request r code.handle)
  | waits {f : σ → σ} (h : Waits view f) : ByPolicy view policy store (.meanwhile f)
  | sweeps {f : σ → σ} (h : ∀ s, view (f s) = (view s).purge) : ByPolicy view policy store (.meanwhile f)

variable {g : Guard σ} {shared : Shared σ}

theorem FollowsPolicy.within (hg : g.FollowsPolicy view policy shared) (path : String) :
    ∀ stage ∈ g.stagesFor path, stage.Within (.byPolicy view policy shared.store) := by
  have hwithin : g.Within shared (.byPolicy view policy shared.store) := by
    intro c hc
    obtain ⟨b, hbuild, -, hb⟩ := hg c hc
    exact ⟨b, hbuild, hb⟩
  exact hwithin.stagesFor path

variable [Clocked σ]

/-- A request whose stages, and whose handler, leave sessions to the policy. -/
theorem governed (hstore : store.Prompt view) {r : Request}
    (hstages : ∀ stage ∈ g.stagesFor r.path, stage.Within (.byPolicy view policy store)) {code : Program σ}
    (hcode : code.Within (.byPolicy view policy store)) (d : Desk σ) (hd : (view d.backend).Distinct) :
    ∃ outcome q journal,
      Pipeline.noted code.handleNoted (g.stagesFor r.path) (g.enter r d, []) = (outcome, q, journal) ∧
      g.runRequest code.handle r d = (outcome, q.exchange, ⟨q.metrics, q.backend⟩) ∧
      policy.Governs (view d.backend) (g.presented r) journal q.exchange.toVisit (view q.backend) ∧
      (view q.backend).Distinct := by
  obtain ⟨outcome, q, journal, hnoted, hrun, hgoverns, hdistinct⟩ :=
    Pipeline.governed hstore hstages hcode (g.held_enter _ r d) rfl ⟨rfl, rfl⟩ hd
  refine ⟨outcome, q, journal, hnoted, ?_, hgoverns, hdistinct⟩
  rw [runRequest_eq, hrun]

theorem after_append (g : Guard σ) (d : Desk σ) (later past : List (Event σ)) :
    g.after d (later ++ past) = g.after (g.after d past) later := by
  induction later with
  | nil => rfl
  | cons e later ih =>
    cases e with
    | request r handler => exact congrArg (fun d' => (g.runRequest handler r d').2.2) ih
    | meanwhile f => exact congrArg (fun d' : Desk σ => { d' with backend := f d'.backend }) ih

/-- One event, where no session may be opened. -/
theorem population_event (hstore : shared.store.Prompt view) (hg : g.FollowsPolicy view .never shared) {e : Event σ}
    (he : e.ByPolicy view .never shared.store) {d : Desk σ} (hd : (view d.backend).Distinct) :
    (view (g.after d [e]).backend).Distinct ∧
      (view (g.after d [e]).backend).population ≤ (view d.backend).population := by
  cases he with
  | @request r code hcode =>
    obtain ⟨outcome, q, journal, -, hrun, hgoverns, hdistinct⟩ := governed hstore (hg.within r.path) hcode d hd
    have hafter : (g.after d [.request r code.handle]).backend = q.backend :=
      congrArg (fun served => served.2.2.backend) hrun
    rw [hafter]
    exact ⟨hdistinct, hgoverns.never rfl⟩
  | @waits f hf =>
    obtain ⟨ms, hwait⟩ := hf d.backend
    have hafter : view (g.after d [.meanwhile f]).backend = (view d.backend).wait ms := hwait
    rw [hafter]
    exact ⟨hd, Sessions.population_wait _ ms⟩
  | @sweeps f hf =>
    have hafter : view (g.after d [.meanwhile f]).backend = (view d.backend).purge := hf d.backend
    rw [hafter]
    refine ⟨hd.purge, Sessions.population_le fun i hi => ?_⟩
    rw [Sessions.Alive, Sessions.live?_purge hd] at hi
    exact hi

/-- Any number of events, where no session may be opened. -/
theorem population_after (hstore : shared.store.Prompt view) (hg : g.FollowsPolicy view .never shared) {d : Desk σ}
    (hd : (view d.backend).Distinct) {history : List (Event σ)}
    (hhistory : ∀ e ∈ history, e.ByPolicy view .never shared.store) :
    (view (g.after d history).backend).Distinct ∧
      (view (g.after d history).backend).population ≤ (view d.backend).population := by
  induction history with
  | nil => exact ⟨hd, Nat.le_refl _⟩
  | cons e past ih =>
    rw [List.forall_mem_cons] at hhistory
    obtain ⟨hdistinct, hle⟩ := ih hhistory.2
    obtain ⟨hdistinct', hle'⟩ := population_event hstore hg hhistory.1 hdistinct
    rw [← List.singleton_append, after_append]
    exact ⟨hdistinct', Nat.le_trans hle' hle⟩

/-- Sessions are opened as the policy has it. Of one request that a chain serves, the policy of the chain holds; so it
does, where there is always to be a session, when the stage is left that saves on its exit. And where all chains keep
from opening sessions, from one moment to a later one the sessions never grow in number. -/
theorem sessions_follow_policy (hstore : shared.store.Prompt view) :
    (∀ (b : Blueprint σ) (c : Chain σ) (g : Guard σ) (r : Request) (code : Program σ) (d : Desk σ),
      b.build shared = .ok c → b.Within shared (.byPolicy view b.session.policy shared.store) →
      g.chainFor? r.path = some c → code.Within (.byPolicy view b.session.policy shared.store) →
      (view d.backend).Distinct →
      ∃ outcome q journal, Pipeline.noted code.handleNoted c.stages (g.enter r d, []) = (outcome, q, journal) ∧
        g.runRequest code.handle r d = (outcome, q.exchange, ⟨q.metrics, q.backend⟩) ∧
        b.session.policy.Governs (view d.backend) (g.presented r) journal q.exchange.toVisit (view q.backend)) ∧
    (∀ (after : List (Stage σ)) (code : Program σ) (r : Request) (p : Passage σ),
      (∀ stage ∈ after, stage.Within (.byPolicy view .always shared.store)) →
      code.Within (.byPolicy view .always shared.store) → p.Held (.byPolicy view .always shared.store) r →
      p.exchange.isMarked Stage.contextMark = false → (view p.backend).Distinct →
      let q := (Pipeline.run code.handle
        (.autoSave (Blueprint.defaultRepository .always shared.store) :: after) p).2
      q.exchange.toVisit.Lives (view q.backend)) ∧
    ∀ (g : Guard σ) (d : Desk σ) (later past : List (Event σ)), g.FollowsPolicy view .never shared →
      (view d.backend).Distinct → (∀ e ∈ later ++ past, e.ByPolicy view .never shared.store) →
      (view (g.after d (later ++ past)).backend).population ≤ (view (g.after d past).backend).population := by
  refine ⟨fun b c g r code d hbuild hb hchain hcode hd => ?_, fun after code r p hafter hcode hp hmarked hd => ?_,
    fun g d later past hg hd hevents => ?_⟩
  · obtain ⟨outcome, q, journal, hnoted, hrun, hgoverns, -⟩ :=
      governed hstore (stagesFor_within hb hbuild hchain) hcode d hd
    rw [stagesFor_eq hchain] at hnoted
    exact ⟨outcome, q, journal, hnoted, hrun, hgoverns⟩
  · exact Pipeline.lives_autoSave hstore hafter hcode hp hmarked hd
  · rw [List.forall_mem_append] at hevents
    rw [after_append]
    have hdistinct := (population_after hstore hg hd hevents.2).1
    exact (population_after hstore hg hdistinct hevents.1).2

end Guard

/-! ## A handler that saves -/

/-- A chain that saves on its exit, and opens sessions as a policy has it. -/
def Chain.savingBy (policy : SessionPolicy) : Chain Sessions where
  matcher := ⟨"/**", [.anyDepth]⟩
  stages := [.autoSave (Blueprint.defaultRepository policy Sessions.store), .anonymous]
  cookieName := "SESSION"

theorem Chain.build_savingBy (policy : SessionPolicy) :
    Blueprint.build { session := { policy } } Shared.ofAnn = .ok (Chain.savingBy policy) := by
  rw [Blueprint.build_eq ⟨rfl, rfl⟩]
  cases policy <;> rfl

theorem Blueprint.within_byPolicy (policy : SessionPolicy) :
    Blueprint.Within { session := { policy } } Shared.ofAnn (.byPolicy id policy Sessions.store) :=
  Blueprint.Plain.within ⟨rfl, rfl⟩ rfl (.inr trivial)

/-- Sets an authentication and has it saved; without a hook that does nothing. -/
def Program.authenticates : Program Sessions :=
  .authenticate ⟨"ann", [], true, .formLogin⟩ (.save fun _ => .answer ⟨200, [], .null⟩)

theorem Program.authenticates_within (policy : SessionPolicy) :
    authenticates.Within (.byPolicy id policy Sessions.store) :=
  .authenticate _ (.save trivial fun _ => .answer (.inl trivial))

theorem Guard.followsPolicy_savingBy (policy : SessionPolicy) :
    FollowsPolicy ⟨[Chain.savingBy policy]⟩ id policy Shared.ofAnn := by
  intro c hc
  rw [List.mem_singleton.1 hc]
  exact ⟨{ session := { policy } }, Chain.build_savingBy policy, rfl, Blueprint.within_byPolicy policy⟩

theorem Guard.chainFor?_savingBy (policy : SessionPolicy) :
    chainFor? ⟨[Chain.savingBy policy]⟩ "/" = some (Chain.savingBy policy) := by
  cases policy <;> rfl

/-- For what the handler leaves a session is opened; it is alive when the stage is left; and where none may be opened,
none lives afterwards. -/
theorem Guard.savingBy_opens_one :
    let r : Request := { method := .get, path := "/" }
    let g : SessionPolicy → Guard Sessions := fun policy => ⟨[Chain.savingBy policy]⟩
    (∃ outcome q journal, Pipeline.noted Program.authenticates.handleNoted (Chain.savingBy .ifRequired).stages
        ((g .ifRequired).enter r newDesk, []) = (outcome, q, journal) ∧
      (g .ifRequired).runRequest Program.authenticates.handle r newDesk =
        (outcome, q.exchange, ⟨q.metrics, q.backend⟩) ∧
      SessionPolicy.Governs .ifRequired newDesk.backend ((g .ifRequired).presented r) journal q.exchange.toVisit
        q.backend) ∧
    ((g .ifRequired).runRequest Program.authenticates.handle r newDesk).2.2.backend.created = 1 ∧
    (let q := (Pipeline.run Program.authenticates.handle (Chain.savingBy .always).stages
      ((g .always).enter r newDesk)).2
    q.exchange.toVisit.Lives q.backend) ∧
    ((g .never).after newDesk ([.request r Program.authenticates.handle] ++ [])).backend.population ≤
      ((g .never).after newDesk []).backend.population := by
  intro r g
  have hstore : Shared.ofAnn.store.Prompt id := Sessions.store_prompt
  obtain ⟨hrequest, hstage, hrun⟩ := sessions_follow_policy hstore
  refine ⟨?_, ?_, ?_, ?_⟩
  · exact hrequest { session := { policy := .ifRequired } } _ (g .ifRequired) r _ newDesk
      (Chain.build_savingBy .ifRequired) (Blueprint.within_byPolicy .ifRequired)
      (chainFor?_savingBy .ifRequired) (Program.authenticates_within .ifRequired) List.nodup_nil
  · decide +kernel
  · exact hstage [.anonymous] _ r _ (by simpa using .anonymous) (Program.authenticates_within .always)
      (held_enter _ _ r newDesk) rfl List.nodup_nil
  · refine hrun (g .never) newDesk _ [] (followsPolicy_savingBy .never) List.nodup_nil ?_
    simpa using .request r (Program.authenticates_within .never)

end Portcullis
