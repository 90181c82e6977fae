import Portcullis.Proofs.Guard.Licensed
import Portcullis.Proofs.Pipeline.Aside
import Portcullis.Proofs.Session.Uses

/-!
# Saving left to those who do not save

Where a chain leaves saving to others, and nobody saves or renews a session, a request only uses the session that it
presents: basic authentication over a live session, a stage that answers instead of the handler, a handler that sets
and clears the authentication or fails, none of them changes what the sessions hold (`Guard.unsaved_leaves_sessions`).
The one stage of the library's own that saves is the form login, where it accepts what a request submits; so the request
must not be a login that succeeds (`Pipeline.NoLogin`). A context that has been loaded is discarded in the end
(`Course.unsaved`).
-/

namespace Portcullis

variable {σ : Type} {view : σ → Sessions} {store : Store σ}

/-! ## Courses without saves -/

section Courses

variable {hook : Option (Repository σ)} {s s' : ContextState} {journal : Journal σ}

theorem Under.eq_of_unsaved (h : Under hook s journal s') (hunsaved : ∀ m ∈ journal, m.deed.isSave = false) :
    s' = s := by
  induction h with
  | done s => rfl
  | still _ _ ih | passed _ _ ih => exact ih fun m hm => hunsaved m (List.mem_cons_of_mem _ hm)
  | refused _ hfirst _ _ | saved _ hfirst _ _ =>
    have hsave := hunsaved _ List.mem_cons_self
    simp [hfirst.deed] at hsave

theorem Under.not_loads (h : Under hook s journal s') : ¬journal.Loads := by
  rintro ⟨m, hm, mode, hdeed⟩
  have hload := (h.of_mem hm).1
  simp [hdeed] at hload

/-- The first stage that is reached has loaded the context, and discards it, or loading has failed. -/
theorem Work.unsaved {mode : SaveMode} {state : ContextState} (h : Work mode journal state)
    (hunsaved : ∀ m ∈ journal, m.deed.isSave = false) :
    state = .discarded ∧ journal.Loads ∨ state = .notLoaded ∧ ¬journal.Loads := by
  cases h with
  | failed hload => exact .inr ⟨rfl, by simp [Journal.Loads, hload.deed]⟩
  | @onExit load save settle inside ok hload hinside hsave hsettle =>
    have hsaved := hunsaved save (by simp)
    simp [hsave.deed] at hsaved
  | @onRequest load install settle inside repository reached hload hinstall hinside hsettle =>
    have hreached : reached = .loaded := hinside.eq_of_unsaved fun m hm => hunsaved m (by simp [hm])
    rw [if_pos hreached]
    exact .inl ⟨rfl, load, by simp, .onRequest, hload.deed⟩

/-- Where nothing is saved, the context is discarded if it has been loaded. -/
theorem Course.unsaved {e : Exchange σ} (h : Course journal e) (hunsaved : ∀ m ∈ journal, m.deed.isSave = false) :
    e.state = .discarded ∧ journal.Loads ∨ e.state = .notLoaded ∧ ¬journal.Loads := by
  cases h with
  | untouched h he => exact .inr ⟨he.state, h.not_loads⟩
  | @acted before work after leave mode state e hbefore hwork hleave hafter he =>
    rw [he.state]
    have hleft : ¬Journal.Loads (leave :: after) := by
      rw [Journal.loads_cons]
      simp [hleave.deed, hafter.not_loads]
    have hloads : Journal.Loads (before ++ (work ++ leave :: after)) ↔ work.Loads := by
      rw [Journal.loads_append, Journal.loads_append, eq_false hbefore.not_loads, eq_false hleft, false_or, or_false]
    rw [hloads]
    exact hwork.unsaved fun m hm => hunsaved m (by simp [hm])

end Courses

/-! ## Hosts that do not save -/

/-- The host may do all but save contexts and renew sessions; to the sessions it does nothing but let time pass.
Contexts are kept in the sessions of the store, or nowhere. -/
def Licence.withoutSaves (view : σ → Sessions) (store : Store σ) : Licence σ where
  behind := Waits view
  sessions := False
  binds := True
  cookies := True
  repositories := (·.Over store)
  keepsRequest _ h := h.keepsRequest

/-- No step saves, and each at most uses a session. -/
theorem Licence.Effect.uses {context : SecurityContext} {saves : Bool} {before after : Visit × σ}
    (h : (withoutSaves view store).Effect context saves before after) (hstore : store.InMemory view) {start : Sessions}
    (huses : start.OnlyUsed (view before.2)) : saves = false ∧ start.OnlyUsed (view after.2) := by
  cases h with
  | still visit s => exact ⟨rfl, huses⟩
  | behind hf visit s =>
    obtain ⟨ms, hwait⟩ := hf s
    refine ⟨rfl, ?_⟩
    rw [hwait]
    exact huses.wait ms
  | load hr visit s =>
    refine ⟨rfl, ?_⟩
    cases hr with
    | inSession allow always => exact Repository.load_uses hstore allow always visit huses
    | none => exact huses
  | save _ hs visit s => exact hs.elim
  | rotate _ hs visit s => exact hs.elim
  | bind _ id visit s => exact ⟨rfl, huses⟩
  | queue _ visit s => exact ⟨rfl, huses⟩

theorem Licence.Trace.uses {p q : Passage σ} {journal : Journal σ} (h : (withoutSaves view store).Trace p journal q)
    (hstore : store.InMemory view) :
    (view p.backend).OnlyUsed (view q.backend) ∧ ∀ m ∈ journal, m.deed.isSave = false := by
  refine h.invariant
    (fun q past => (view p.backend).OnlyUsed (view q.backend) ∧ ∀ m ∈ past, m.deed.isSave = false) ?_ []
    ⟨.refl _, by simp⟩
  rintro q m q' past ⟨huses, hpast⟩ hstep
  obtain ⟨hsave, huses'⟩ := hstep.effect.uses hstore huses
  refine ⟨huses', fun m' hm' => ?_⟩
  rcases List.mem_append.1 hm' with hm' | hm'
  · exact hpast m' hm'
  · rw [List.mem_singleton.1 hm']
    exact hsave

namespace Pipeline

variable [Clocked σ] {stages : List (Stage σ)} {p : Passage σ}

/-- The request is not a login that succeeds: a stage that would accept the form that it submits is never reached, so
that it does not matter what stands in its place, and after it. -/
def NoLogin (handler : Flow σ Response) (stages : List (Stage σ)) (p : Passage σ) : Prop :=
  ∀ before login after, stages = before ++ login :: after → login.admits p.exchange.request = true →
    ∀ (handler' : Flow σ Response) (after' : List (Stage σ)), after'.length = after.length + 1 →
      run handler' (before ++ after') p = run handler stages p

/-- Where no stage accepts what is submitted, nobody logs in. -/
theorem noLogin_of_admits {handler : Flow σ Response}
    (h : ∀ stage ∈ stages, stage.admits p.exchange.request = false) : NoLogin handler stages p := by
  rintro before login after rfl hadmits
  simp [h login (by simp)] at hadmits

/-- If nobody logs in, there might as well be no stage that accepts what is submitted. -/
theorem NoLogin.exists_stages {handler : Flow σ Response} (h : NoLogin handler stages p) :
    ∃ stages' : List (Stage σ), run handler stages' p = run handler stages p ∧
      ∀ stage ∈ stages', stage.admits p.exchange.request = false ∧ (stage ∈ stages ∨ stage = .tracing) := by
  cases hfind : stages.find? (·.admits p.exchange.request) with
  | none =>
    rw [List.find?_eq_none] at hfind
    exact ⟨stages, rfl, fun stage hstage => ⟨by simpa using hfind stage hstage, .inl hstage⟩⟩
  | some login =>
    obtain ⟨hadmits, before, after, rfl, hbefore⟩ := List.find?_eq_some_iff_append.1 hfind
    refine ⟨before ++ List.replicate (after.length + 1) .tracing,
      h before login after rfl hadmits handler _ (List.length_replicate ..), fun stage hstage => ?_⟩
    rcases List.mem_append.1 hstage with hmem | hmem
    · exact ⟨by simpa using hbefore stage hmem, .inl (List.mem_append_left _ hmem)⟩
    · rw [List.eq_of_mem_replicate hmem]
      exact ⟨rfl, .inr rfl⟩

/-- A run without saves and logins, on an exchange about whose context nothing has been done. -/
theorem unsaved (hstore : store.InMemory view)
    (hstages : ∀ stage ∈ stages, stage.Within (.withoutSaves view store)) {code : Program σ}
    (hcode : code.Within (.withoutSaves view store)) (hp : p.Held (.withoutSaves view store) p.exchange.request)
    (hmarked : p.exchange.isMarked Stage.contextMark = false) (huntouched : p.exchange.Untouched)
    (hnew : p.exchange.repository = none) (hlogin : NoLogin code.handle stages p) :
    (view p.backend).OnlyUsed (view (run code.handle stages p).2.backend) ∧
      (run code.handle stages p).2.exchange.state =
        if (run code.handle stages p).2.exchange.repository.isSome then .discarded else .notLoaded := by
  obtain ⟨stages', hsame, hothers⟩ := hlogin.exists_stages
  have hwithin : ∀ stage ∈ stages', stage.Within (.withoutSaves view store) := by
    intro stage hstage
    rcases (hothers stage hstage).2 with hmem | rfl
    · exact hstages stage hmem
    · exact .tracing
  obtain ⟨outcome, q, journal, hnoted, hrun, htrace, -⟩ :=
    exists_trace hcode hwithin hp (.inr fun stage hstage => (hothers stage hstage).1)
  obtain ⟨huses, hunsaved⟩ := htrace.uses hstore
  have hloads := htrace.loads
  rw [hnew, Option.isSome_none, eq_false Bool.false_ne_true, false_or] at hloads
  rw [← hsame, hrun]
  refine ⟨huses, ?_⟩
  rcases (course_of_noted hmarked huntouched hnoted).unsaved hunsaved with ⟨hstate, hloaded⟩ | ⟨hstate, hnot⟩
  · rw [if_pos (hloads.2 hloaded)]
    exact hstate
  · rw [if_neg fun h => hnot (hloads.1 h)]
    exact hstate

end Pipeline

namespace Guard

variable [Clocked σ] {shared : Shared σ}

/-- Through a chain that leaves saving to others (only such a chain keeps within a licence without saves), a request that
is not a successful login, and whose handler does not save, opens no session and leaves those that live what they hold;
in the end the context is discarded, if it has been loaded. Sessions may expire while time passes; where none passes, the
same sessions live and hold the same. -/
theorem unsaved_leaves_sessions (hstore : shared.store.InMemory view) {b : Blueprint σ} {c : Chain σ}
    (hbuild : b.build shared = .ok c) (hb : b.Within shared (.withoutSaves view shared.store)) {g : Guard σ}
    {r : Request} (hchain : g.chainFor? r.path = some c) {code : Program σ}
    (hcode : code.Within (.withoutSaves view shared.store)) (d : Desk σ)
    (hlogin : Pipeline.NoLogin code.handle c.stages (g.enter r d)) :
    let served := g.runRequest code.handle r d
    (view served.2.2.backend).created = (view d.backend).created ∧
      (view d.backend).OnlyUsed (view served.2.2.backend) ∧
      ((view served.2.2.backend).now = (view d.backend).now →
        ∀ i, ((view served.2.2.backend).live? i).map (·.context) = ((view d.backend).live? i).map (·.context)) ∧
      served.2.1.state = if served.2.1.repository.isSome then .discarded else .notLoaded := by
  obtain ⟨huses, hstate⟩ := Pipeline.unsaved hstore (Blueprint.stages_within hb hbuild) hcode (g.held_enter _ r d) rfl
    ⟨rfl, rfl⟩ rfl hlogin
  simp only [runRequest_eq, stagesFor_eq hchain]
  exact ⟨huses.created, huses, huses.live?_context, hstate⟩

end Guard

/-! ## A handler that changes the context -/

/-- Form login and basic authentication, and saving left to others. -/
def Chain.explicitLogin : Chain Sessions where
  matcher := ⟨"/**", [.anyDepth]⟩
  stages := [.explicitSave (.inSession Sessions.store true false),
    .formLogin {} ⟨[{ username := "ann", password := "secret" }]⟩,
    .httpBasic "Realm" ⟨[{ username := "ann", password := "secret" }]⟩, .anonymous]
  cookieName := "SESSION"

theorem Chain.build_explicitLogin :
    Blueprint.build { context := { explicitSave := true }, formLogin := some {}, httpBasic := some "Realm" }
      Shared.ofAnn = .ok Chain.explicitLogin := by
  rw [Blueprint.build_eq ⟨rfl, rfl⟩]
  rfl

/-- Logs out, sets another authentication, and fails. -/
def Program.switchesAndFails : Program Sessions :=
  .clear (.authenticate ⟨"carol", [], true, .formLogin⟩ (.fail (.handler "too late")))

namespace Guard

/-- One session, which is `bob`'s. -/
def deskOfBob : Desk Sessions where
  backend := {
    supply := Ulid.ofNat
    held := [(Ulid.ofNat 0, { context := some ⟨some ⟨"bob", [], true, .formLogin⟩⟩, lastUsed := 0 })]
    created := 1
    issued := 1 }

/-- The session stays `bob`'s, though `ann` has given her password and the handler has named `carol`. -/
theorem unsaved_leaves_session_of_bob :
    let served := runRequest ⟨[Chain.explicitLogin]⟩ Program.switchesAndFails.handle .ofAnnInSession deskOfBob
    (served.2.2.backend.created = deskOfBob.backend.created ∧ deskOfBob.backend.OnlyUsed served.2.2.backend ∧
      (served.2.2.backend.now = deskOfBob.backend.now → ∀ i,
        (served.2.2.backend.live? i).map (·.context) = (deskOfBob.backend.live? i).map (·.context)) ∧
      served.2.1.state = if served.2.1.repository.isSome then .discarded else .notLoaded) ∧
    served.2.1.state = .discarded ∧ served.2.1.session = some (Ulid.ofNat 0) ∧
    (served.2.2.backend.live? (Ulid.ofNat 0)).map (·.context) = some (some ⟨some ⟨"bob", [], true, .formLogin⟩⟩) := by
  refine ⟨unsaved_leaves_sessions Sessions.store_inMemory Chain.build_explicitLogin ?_ rfl ?_ deskOfBob ?_, ?_⟩
  · exact Blueprint.Plain.within ⟨rfl, rfl⟩ (.inSession true false) (.inl rfl)
  · exact .clear (.authenticate _ (.fail _))
  · exact Pipeline.noLogin_of_admits (by decide +kernel)
  · decide +kernel

end Guard

end Portcullis
