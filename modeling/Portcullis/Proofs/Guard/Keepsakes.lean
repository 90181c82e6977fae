import Portcullis.Proofs.Guard.Licensed

/-!
# What is worth keeping

Handlers may put any authentication into the context and take it out again, and save and renew as often as they like
(`Licence.toSaveAnything`): what comes into a session is a context that the exchange has had when it was saved, and that
names somebody (`Licence.Trace.holds`). So, from a store without sessions on, no session holds an empty context or an
anonymous one, neither between requests nor in the middle of one (`Guard.sessions_name_somebody`).
-/

namespace Portcullis

variable {σ : Type} {view : σ → Sessions} {store : Store σ}

theorem SecurityContext.isPersistable_iff {c : SecurityContext} :
    c.isPersistable = true ↔ ∃ a, c.authentication = some a ∧ a.isAnonymous = false := by
  simp [isPersistable, Option.any_eq_true]

/-- Everything that the sessions hold, dead ones included, names somebody: no context is empty, and none is anonymous. -/
def Sessions.NameSomebody (s : Sessions) : Prop :=
  ∀ i c, s.Holds i c → ∃ a, c.authentication = some a ∧ a.isAnonymous = false

/-- The host may put anything into the context, and save and renew sessions; it puts nothing into sessions behind the
repository. Contexts are kept in the sessions of the store, or nowhere. -/
def Licence.toSaveAnything (view : σ → Sessions) (store : Store σ) : Licence σ where
  behind := QuietBehind view
  sessions := True
  binds := True
  cookies := True
  repositories := (·.Over store)
  keepsRequest _ h := h.keepsRequest

/-! ## Steps -/

section Steps

variable {s t : Sessions} {c c' : SecurityContext} {i id fresh : SessionId}

/-- A session that moves takes its context along. -/
theorem Sessions.Moves.holds (h : s.Moves id fresh t) (hc : t.Holds i c) : ∃ j, s.Holds j c := by
  by_cases hi : i = fresh
  · subst hi
    exact ⟨id, h.moved c hc⟩
  · exact ⟨i, (h.others i c hi hc).2⟩

theorem Sessions.Keeps.holds (h : s.Keeps id c t) (hc : t.Holds i c') : s.Holds i c' ∨ c' = c := by
  by_cases hi : i = id
  · subst hi
    exact .inr (h.only c' hc)
  · exact .inl (h.others i c' hi hc)

/-- A save adds nothing but the context that is saved, and that one only if it is worth keeping. -/
theorem Repository.Saved.holds {visit visit' : Visit} (h : Saved visit s c visit' t) (hc : t.Holds i c') :
    s.Holds i c' ∨ c' = c ∧ c.isPersistable = true := by
  cases h with
  | nothing hsheds _ => exact .inl (hsheds.holds i c' hc)
  | kept _ hworth hkeeps => exact (hkeeps.holds hc).imp_right fun heq => ⟨heq, hworth⟩
  | opened hopens hkept _ =>
    rcases hkept with hsheds | ⟨hworth, hkeeps⟩
    · exact .inl (hopens.others i c' (hsheds.holds i c' hc))
    · exact (hkeeps.holds hc).imp (hopens.others i c') fun heq => ⟨heq, hworth⟩

/-- So what a step adds is a context that it saves, and that is worth keeping. -/
theorem Licence.Effect.holds (hstore : store.InMemory view) {saves : Bool} {before after : Visit × σ}
    (h : (toSaveAnything view store).Effect c saves before after) (hc : (view after.2).Holds i c') :
    (∃ j, (view before.2).Holds j c') ∨ saves = true ∧ c' = c ∧ c.isPersistable = true := by
  cases h with
  | still visit s => exact .inl ⟨i, hc⟩
  | behind hf visit s => exact .inl ⟨i, (hf s).holds i c' hc⟩
  | load hr visit s =>
    cases hr with
    | none => exact .inl ⟨i, hc⟩
    | inSession allow always =>
      obtain ⟨_, _, hload, hsheds, -⟩ := Repository.load_cases hstore allow always visit s
      rw [hload] at hc
      exact .inl ⟨i, hsheds.holds i c' hc⟩
  | save hr _ visit s =>
    cases hr with
    | none => exact .inl ⟨i, hc⟩
    | inSession allow always =>
      obtain ⟨_, _, _, hsave, hsaved⟩ := Repository.save_cases hstore allow always c visit s
      rw [hsave] at hc
      exact (hsaved.holds hc).imp (⟨i, ·⟩) fun hkept => ⟨rfl, hkept⟩
  | rotate hr _ visit s =>
    cases hr with
    | none => exact .inl ⟨i, hc⟩
    | inSession allow always =>
      obtain ⟨_, _, _, hrotate, hrotated⟩ := Repository.rotate_cases hstore allow always visit s
      rw [hrotate] at hc
      rcases hrotated with ⟨_, _, -, -, hmoves⟩ | ⟨-, hsheds, -⟩
      · exact .inl (hmoves.holds hc)
      · exact .inl ⟨i, hsheds.holds i c' hc⟩
  | bind _ id visit s => exact .inl ⟨i, hc⟩
  | queue _ visit s => exact .inl ⟨i, hc⟩

end Steps

/-! ## Runs -/

namespace Licence.Trace

variable {p q : Passage σ} {journal : Journal σ}

/-- What is held in the end was held before, or has been saved on the way and is worth keeping. -/
theorem holds (hstore : store.InMemory view) (h : (toSaveAnything view store).Trace p journal q) {i : SessionId}
    {c : SecurityContext} (hc : (view q.backend).Holds i c) : (∃ j, (view p.backend).Holds j c) ∨
      ∃ m ∈ journal, m.deed.isSave = true ∧ m.exchange.context = c ∧ c.isPersistable = true := by
  refine h.invariant (fun q past => ∀ i c, (view q.backend).Holds i c → (∃ j, (view p.backend).Holds j c) ∨
    ∃ m ∈ past, m.deed.isSave = true ∧ m.exchange.context = c ∧ c.isPersistable = true) ?_ []
    (fun i c hc => .inl ⟨i, hc⟩) i c hc
  rintro q m q' past hpast hstep i c hc
  rcases hstep.effect.holds hstore hc with ⟨j, hbefore⟩ | ⟨hsave, rfl, hworth⟩
  · refine (hpast j c hbefore).imp_right ?_
    rintro ⟨m', hm', hkept⟩
    exact ⟨m', List.mem_append_left _ hm', hkept⟩
  · exact .inr ⟨m, by simp, hsave, congrArg Exchange.context hstep.exchange, hworth⟩

/-- So where everything named somebody, it does so in the end. -/
theorem nameSomebody (hstore : store.InMemory view) (h : (toSaveAnything view store).Trace p journal q)
    (hp : (view p.backend).NameSomebody) : (view q.backend).NameSomebody := by
  intro i c hc
  rcases h.holds hstore hc with ⟨j, hbefore⟩ | ⟨-, -, -, -, hworth⟩
  · exact hp j c hbefore
  · exact SecurityContext.isPersistable_iff.1 hworth

end Licence.Trace

namespace Guard

variable [Clocked σ] {g : Guard σ} {shared : Shared σ} {d : Desk σ} {history : List (Event σ)}

/-- One event after the other. -/
theorem nameSomebody_after (hstore : shared.store.InMemory view)
    (hg : g.Within shared (.toSaveAnything view shared.store)) (hd : (view d.backend).NameSomebody)
    (hhistory : ∀ e ∈ history, e.Within (.toSaveAnything view shared.store)) :
    (view (g.after d history).backend).NameSomebody := by
  induction history with
  | nil => exact hd
  | cons e past ih =>
    rw [List.forall_mem_cons] at hhistory
    have hpast := ih hhistory.2
    cases hhistory.1 with
    | @request r code hcode =>
      obtain ⟨_, q, _, -, hrun, htrace, -⟩ :=
        exists_trace (g.after d past) (hg.stagesFor r.path) (.inl trivial) hcode
      have hafter : (g.after d (.request r code.handle :: past)).backend = q.backend :=
        congrArg (fun served => served.2.2.backend) hrun
      rw [hafter]
      exact htrace.nameSomebody hstore hpast
    | @meanwhile f hf => exact fun i c hc => hpast i c ((hf _).holds i c hc)

/-- From a store without sessions on, whatever handlers put into contexts, and however they save and renew: no session
ever holds an empty context or an anonymous one, whether it is looked at between requests or in the middle of the next
one. What the next request leaves in sessions was there before, or has been saved on the way. -/
theorem sessions_name_somebody (hstore : shared.store.InMemory view)
    (hg : g.Within shared (.toSaveAnything view shared.store)) (hempty : (view d.backend).held = [])
    (hhistory : ∀ e ∈ history, e.Within (.toSaveAnything view shared.store)) :
    (view (g.after d history).backend).NameSomebody ∧
    ∀ r (code : Program σ), code.Within (.toSaveAnything view shared.store) →
      let l := Licence.toSaveAnything view shared.store
      let start := g.enter r (g.after d history)
      ∃ outcome q journal, Pipeline.noted code.handleNoted (g.stagesFor r.path) (start, []) = (outcome, q, journal) ∧
        g.runRequest code.handle r (g.after d history) = (outcome, q.exchange, ⟨q.metrics, q.backend⟩) ∧
        l.Trace start journal q ∧
        (∀ past p rest, journal = past ++ rest → l.Trace start past p → l.Trace p rest q →
          (view p.backend).NameSomebody) ∧
        ∀ i c, (view q.backend).Holds i c → (∃ j, (view start.backend).Holds j c) ∨
          ∃ m ∈ journal, m.deed.isSave = true ∧ m.exchange.context = c := by
  have hnew : (view d.backend).NameSomebody := by
    rintro i c ⟨session, hmem, -⟩
    rw [hempty] at hmem
    cases hmem
  have hafter := nameSomebody_after hstore hg hnew hhistory
  refine ⟨hafter, fun r code hcode => ?_⟩
  intro l start
  obtain ⟨outcome, q, journal, hnoted, hrun, htrace, -⟩ :=
    exists_trace (g.after d history) (hg.stagesFor r.path) (.inl trivial) hcode
  refine ⟨outcome, q, journal, hnoted, hrun, htrace, fun past p rest _ hpast _ => hpast.nameSomebody hstore hafter,
    fun i c hc => ?_⟩
  refine (htrace.holds hstore hc).imp_right ?_
  rintro ⟨m, hm, hsave, hcontext, -⟩
  exact ⟨m, hm, hsave, hcontext⟩

end Guard

/-! ## Handlers that save anything -/

/-- Saves the anonymous authentication, and then `bob`, who need not be authenticated; and renews the session. -/
def Program.savesBob : Program Sessions :=
  .authenticate .anonymous (.save fun _ => .authenticate ⟨"bob", [], false, .preAuthenticated⟩
    (.save fun _ => .rotate fun _ => .answer ⟨200, [], .null⟩))

/-- Saves the anonymous authentication, and fails. -/
def Program.savesNobody : Program Sessions :=
  .authenticate .anonymous (.save fun _ => .fail (.handler "nobody"))

/-- A request in the session that `bob` has been kept in. -/
def Request.inSessionOfBob : Request where
  method := .get
  path := "/"
  cookies := [("SESSION", (Ulid.ofNat 1).text)]

/-- A session has been opened for `bob` and moved; when nobody is saved there, it is emptied. -/
theorem Guard.leftToHandler_names_somebody :
    let g : Guard Sessions := ⟨[Chain.explicitOnly]⟩
    let opened : Guard.Event Sessions := .request { method := .get, path := "/" } Program.savesBob.handle
    let emptied : Guard.Event Sessions := .request .inSessionOfBob Program.savesNobody.handle
    let contexts (history : List (Guard.Event Sessions)) : List (SessionId × Option SecurityContext) :=
      (g.after newDesk history).backend.held.map fun entry => (entry.1, entry.2.context)
    (g.after newDesk [emptied, .meanwhile (·.wait 1000), opened]).backend.NameSomebody ∧
      contexts [opened] = [(Ulid.ofNat 1, some ⟨some ⟨"bob", [], false, .preAuthenticated⟩⟩)] ∧
      contexts [emptied, .meanwhile (·.wait 1000), opened] = [(Ulid.ofNat 1, none)] := by
  intro g opened emptied contexts
  have hg : g.Within Shared.ofAnn (.toSaveAnything id Sessions.store) := by
    intro c hc
    rw [List.mem_singleton.1 hc]
    exact ⟨_, Chain.build_explicitOnly, Blueprint.Plain.within ⟨rfl, rfl⟩ (.inSession true false) (.inr trivial)⟩
  have hopened : opened.Within (.toSaveAnything id Sessions.store) :=
    .request _ (.authenticate _ (.save trivial fun _ => .authenticate _ (.save trivial fun _ =>
      .rotate trivial fun _ => .answer (.inl trivial))))
  have hemptied : emptied.Within (.toSaveAnything id Sessions.store) :=
    .request _ (.authenticate _ (.save trivial fun _ => .fail _))
  have hwait : (Event.meanwhile (·.wait 1000)).Within (.toSaveAnything id Sessions.store) :=
    .meanwhile fun s => s.sheds_wait 1000
  refine ⟨(sessions_name_somebody Sessions.store_inMemory hg rfl ?_).1, ?_, ?_⟩
  · simpa using ⟨hemptied, hwait, hopened⟩
  · decide +kernel
  · decide +kernel

end Portcullis
