import Portcullis.Proofs.Guard.Hosting
import Portcullis.Proofs.Pipeline.Contract
import Portcullis.Proofs.Pipeline.Effects
import Portcullis.Proofs.Session.Keeping

/-!
# Layers of a plain chain

How a request passes the layers of a plain chain: first the stages that leave the security context alone, then the one
that loads and saves it, then those that look at it and change it. The contracts here are with handlers that leave
logins alone, and say in the end something about the sessions only.

* `Plan.meets_outer`, `Plan.ends_outer`: the outer layer lets the request through, or answers at once.
* `Plan.meets_autoSave`, `Plan.meets_explicitSave`: the layer in the middle; `Plan.ends_autoSave` and
  `Plan.ends_explicitSave` for what becomes of the sessions.
* `Plan.keeps_last`: the last two stages of the inner layer.
-/

namespace Portcullis

variable {σ : Type} [Clocked σ] {view : σ → Sessions}

/-- A tree that, with a handler that leaves logins alone, ends in states of a kind. -/
def Transit.Ends (view : σ → Sessions) (done : Passage σ → Prop) (t : Transit σ) : Prop :=
  t.Meets (fun _ => True) (fun p _ q => p.Undisturbed view q) fun _ q => done q

omit [Clocked σ] in
theorem Transit.Ends.mono {done done' : Passage σ → Prop} {t : Transit σ} (h : t.Ends view done)
    (hdone : ∀ q, done q → done' q) : t.Ends view done' :=
  Meets.mono h (fun _ h => h) (fun _ _ _ _ h => h) fun _ q hq => hdone q hq

omit [Clocked σ] in
/-- What is kept by a tree and by handlers that leave logins alone holds in the end. -/
theorem Transit.Keeps.ends {inv : Passage σ → Prop} {t : Transit σ} (h : t.Keeps inv)
    (hquiet : ∀ p q : Passage σ, inv p → p.Undisturbed view q → inv q) : t.Ends view inv :=
  Meets.mono h (fun _ _ => trivial) (fun p _ q hp hq => hquiet p q hp hq) fun _ _ h => h

namespace Plan

/-- The stages before the one for the security context. -/
def outerStages (plan : Plan σ) : List (Stage σ) :=
  (if plan.tracing then [.tracing] else []) ++
    ((if plan.metrics then [.metrics] else []) ++ plan.cors.toList.map fun c => .cors c.1 c.2)

/-- The last stages. -/
def lastStages (plan : Plan σ) : List (Stage σ) :=
  (if plan.anonymous then [.anonymous] else []) ++ plan.authorization.toList.map fun a => .authorization a.1 a.2

/-- The stages after the one for the security context. -/
def innerStages (plan : Plan σ) : List (Stage σ) :=
  (plan.formLogin.toList.map fun f => .formLogin f.1 f.2) ++
    ((plan.httpBasic.toList.map fun h => .httpBasic h.1 h.2) ++ plan.lastStages)

omit [Clocked σ] in
theorem stages_eq_layers (plan : Plan σ) :
    plan.stages = plan.outerStages ++ (plan.context.toList.map contextStage ++ plan.innerStages) := by
  simp only [stages_eq, outerStages, innerStages, lastStages, List.append_assoc]

omit [Clocked σ] in
theorem early_stages (plan : Plan σ) : plan.early.map (·.2) = plan.outerStages ++
    (plan.context.toList.map contextStage ++ plan.formLogin.toList.map fun f => .formLogin f.1 f.2) := by
  simp only [early, outer, outerStages, List.map_append, List.map_map, Function.comp_def, apply_ite (List.map _),
    List.map_cons, List.map_nil, List.append_assoc]

/-- The request gets past the stage for other origins. -/
def Crosses (plan : Plan σ) (r : Request) : Prop :=
  ∀ c, plan.cors = some c → Stage.corsPasses (Cors.decide c.1 r) c.2 = true

/-- What becomes of an outcome on its way back through the stage for other origins, if there is one. -/
def relay (plan : Plan σ) (r : Request) (outcome : Except Failure Response) : Except Failure Response :=
  match plan.cors with
  | none => outcome
  | some c => Stage.relay (Cors.decide c.1 r) outcome

/-- The outer layer lets a request through and notes the decision about its origin, and sees to the outcome, or it
answers at once. -/
theorem meets_outer (plan : Plan σ) {before : Passage σ → Prop}
    {after : Passage σ → Except Failure Response → Passage σ → Prop}
    {done : Except Failure Response → Passage σ → Prop} {tail : List (Stage σ)} {p : Passage σ}
    (hmetrics : ∀ outcome q metrics, done outcome q → done outcome { q with metrics })
    (hpass : plan.Crosses p.exchange.request → ∀ decision,
      (Pipeline.transit tail { p with exchange := { p.exchange with decision } }).Meets before after
        fun outcome q => done (plan.relay p.exchange.request outcome) q)
    (hstop : ∀ c, plan.cors = some c → Stage.corsPasses (Cors.decide c.1 p.exchange.request) c.2 = false →
      ∀ decision, done (.ok (Stage.corsAnswer (Cors.decide c.1 p.exchange.request)))
        { p with exchange := { p.exchange with decision } }) :
    (Pipeline.transit (plan.outerStages ++ tail) p).Meets before after done := by
  rw [outerStages, List.append_assoc, List.append_assoc]
  refine Pipeline.meets_optional (fun n => ⟨rfl, fun _ _ h => h⟩) ?_
  refine Pipeline.meets_optional (fun n => ⟨rfl, fun _ q h => hmetrics _ q _ h⟩) ?_
  cases hc : plan.cors with
  | none =>
    simp only [Crosses, relay, hc] at hpass
    exact hpass nofun p.exchange.decision
  | some c =>
    simp only [Crosses, relay, hc] at hpass
    have hmeets (n : Nat) : (Stage.transit n (.cors c.1 c.2) p).Meets
        (fun q => Stage.corsPasses (Cors.decide c.1 p.exchange.request) c.2 = true ∧
          ∃ decision, q = { p with exchange := { p.exchange with decision } })
        (fun _ outcome q => done (Stage.relay (Cors.decide c.1 p.exchange.request) outcome) q) done := by
      rw [Stage.transit]
      rcases Stage.corsTransit_cases (Cors.decide c.1 p.exchange.request) c.2 _ with
        ⟨hpasses, h⟩ | ⟨hrefused, h⟩ <;> rw [h]
      · exact ⟨⟨hpasses, _, rfl⟩, fun _ _ h => h⟩
      · exact hstop c hc hrefused _
    refine Pipeline.meets_cons hmeets ?_
    rintro _ ⟨hpasses, decision, rfl⟩
    refine hpass ?_ decision
    rintro _ ⟨⟩
    exact hpasses

/-- Where only the sessions count, the outer layer lets a request through as it is or leaves all as it was. -/
theorem ends_outer (plan : Plan σ) {goal : Sessions → Prop} {tail : List (Stage σ)} {p : Passage σ}
    (hpass : plan.Crosses p.exchange.request → ∀ decision,
      (Pipeline.transit tail { p with exchange := { p.exchange with decision } }).Ends view
        fun q => goal (view q.backend))
    (hstop : ¬ plan.Crosses p.exchange.request → goal (view p.backend)) :
    (Pipeline.transit (plan.outerStages ++ tail) p).Ends view fun q => goal (view q.backend) := by
  refine plan.meets_outer (fun _ _ _ h => h) hpass fun c hc hrefused _ => hstop fun hcross => ?_
  rw [hcross c hc] at hrefused
  cases hrefused

/-! ## The layer in the middle -/

/-- A passage whose context has been loaded. -/
def loaded (repository : Repository σ) (context : SecurityContext) (s : σ) (p : Passage σ) : Passage σ :=
  { p with
    exchange := { p.exchange.mark Stage.contextMark with context, state := .loaded, repository := some repository }
    backend := s }

omit [Clocked σ] in
@[simp] theorem loaded_visit (repository : Repository σ) (context : SecurityContext) (s : σ) (p : Passage σ) :
    (loaded repository context s p).exchange.toVisit = p.exchange.toVisit :=
  p.exchange.mark_toVisit Stage.contextMark

omit [Clocked σ] in
@[simp] theorem loaded_hook (repository : Repository σ) (context : SecurityContext) (s : σ) (p : Passage σ) :
    (loaded repository context s p).exchange.hook = p.exchange.hook :=
  p.exchange.mark_hook Stage.contextMark

/-- A passage in which saving is left to others. -/
def hooked (repository : Repository σ) (p : Passage σ) : Passage σ :=
  { p with exchange := { p.exchange with hook := some repository } }

section Middle

variable {store : Store σ} {allow always : Bool} {tail : List (Stage σ)} {p : Passage σ} {inv : Passage σ → Prop}
  {goal : Sessions → Prop} {repository : Repository σ} {before : Passage σ → Prop}
  {after : Passage σ → Except Failure Response → Passage σ → Prop}
  {done settled : Except Failure Response → Passage σ → Prop}

/-- The stage that saves, when loading has led to `q`. -/
theorem meets_autoSave {q : Passage σ} (hmark : p.exchange.isMarked Stage.contextMark = false)
    (hload : Flow.loadContext repository { p with exchange := p.exchange.mark Stage.contextMark } = (.ok (), q))
    (htail : (Pipeline.transit tail q).Meets before after settled)
    (hsave : ∀ outcome q, settled outcome q → (Transit.close
      (do Stage.settle outcome (← Flow.onVisit (repository.save q.exchange.context))) q).Meets before after done) :
    (Pipeline.transit (.autoSave repository :: tail) p).Meets before after done := by
  have hmeets (n : Nat) : (Stage.transit n (.autoSave repository) p).Meets (· = q)
      (fun _ outcome q => settled outcome q) done := by
    rw [Stage.transit, Stage.onceTransit, hmark, if_neg Bool.false_ne_true, Transit.step, hload]
    exact ⟨rfl, hsave⟩
  refine Pipeline.meets_cons hmeets ?_
  rintro _ rfl
  exact htail

/-- The stage that leaves saving to others, when loading has led to `q`. -/
theorem meets_explicitSave {q : Passage σ} (hmark : p.exchange.isMarked Stage.contextMark = false)
    (hload : Flow.loadContext repository { p with exchange := p.exchange.mark Stage.contextMark } = (.ok (), q))
    (hdone : ∀ outcome q state, done outcome q →
      done outcome { q with exchange := { q.exchange with hook := none, state } })
    (htail : (Pipeline.transit tail (hooked repository q)).Meets before after done) :
    (Pipeline.transit (.explicitSave repository :: tail) p).Meets before after done := by
  have hmeets (n : Nat) : (Stage.transit n (.explicitSave repository) p).Meets (· = hooked repository q)
      (fun _ outcome q => done outcome q) done := by
    rw [Stage.transit, Stage.onceTransit, hmark, if_neg Bool.false_ne_true, Transit.step, hload]
    exact ⟨rfl, fun outcome q h => hdone outcome q _ h⟩
  refine Pipeline.meets_cons hmeets ?_
  rintro _ rfl
  exact htail

omit [Clocked σ] in
/-- Of the sessions, loading sees only the one that the visit names. -/
theorem load_marked (hstore : store.InMemory view) (allow always : Bool) (p : Passage σ) :
    ∃ c s, Flow.loadContext (.inSession store allow always) { p with exchange := p.exchange.mark Stage.contextMark } =
        (.ok (), loaded (.inSession store allow always) c s p) ∧
      (view p.backend).Sheds (view s) ∧ (view p.backend).Yields p.exchange.session c := by
  obtain ⟨c, s, hload, hsheds, hc⟩ := Repository.load_cases hstore allow always p.exchange.toVisit p.backend
  refine ⟨c, s, ?_, hsheds, hc⟩
  rw [Flow.loadContext_apply]
  simp only [Exchange.mark_toVisit, hload, loaded]

/-- The stage that saves: what holds when the request comes back has to be enough for saving. -/
theorem ends_autoSave (hstore : store.InMemory view) (hmark : p.exchange.isMarked Stage.contextMark = false)
    (hinner : ∀ c s, (view p.backend).Sheds (view s) → (view p.backend).Yields p.exchange.session c →
      (Pipeline.transit tail (loaded (.inSession store allow always) c s p)).Ends view inv)
    (hsave : ∀ q visit s, inv q →
      Repository.Saved q.exchange.toVisit (view q.backend) q.exchange.context visit (view s) → goal (view s)) :
    (Pipeline.transit (.autoSave (.inSession store allow always) :: tail) p).Ends view
      fun q => goal (view q.backend) := by
  obtain ⟨c, s, hload, hsheds, hc⟩ := load_marked hstore allow always p
  refine meets_autoSave hmark hload (hinner c s hsheds hc) fun outcome q hq => ?_
  obtain ⟨state, heq⟩ :=
    Stage.settle_snd outcome ((Repository.inSession store allow always).save q.exchange.context) q
  obtain ⟨result, visit, t, hsaves, hsaved⟩ :=
    Repository.save_cases hstore allow always q.exchange.context q.exchange.toVisit q.backend
  simp only [Transit.close, Transit.Meets, heq, hsaves]
  exact hsave q visit t hq hsaved

/-- The stage that leaves saving to others. -/
theorem ends_explicitSave (hstore : store.InMemory view) (hmark : p.exchange.isMarked Stage.contextMark = false)
    (hinner : ∀ c s, (view p.backend).Sheds (view s) → (view p.backend).Yields p.exchange.session c →
      (Pipeline.transit tail (hooked (.inSession store allow always) (loaded (.inSession store allow always) c s p))).Ends
        view fun q => goal (view q.backend)) :
    (Pipeline.transit (.explicitSave (.inSession store allow always) :: tail) p).Ends view
      fun q => goal (view q.backend) := by
  obtain ⟨c, s, hload, hsheds, hc⟩ := load_marked hstore allow always p
  exact meets_explicitSave hmark hload (fun _ _ _ h => h) (hinner c s hsheds hc)

end Middle

/-! ## The inner layer -/

section Inner

variable {tail : List (Stage σ)} {p : Passage σ} {done : Passage σ → Prop}

/-- The form login has no business with the request. -/
def FormPasses (plan : Plan σ) (r : Request) : Prop :=
  ∀ f, plan.formLogin = some f → f.1.asksPage r = false ∧ f.1.isSubmission r = false

/-- What the request's basic credentials are worth in the chain. -/
def basicVerdict (plan : Plan σ) (r : Request) : Option (Option Authentication) :=
  plan.httpBasic.bind fun h => HttpBasic.verdict h.2 r

/-- Form login passes the request on, or answers and leaves the passage as it is, or logs somebody in. -/
theorem ends_formLogin (plan : Plan σ)
    (hpass : plan.FormPasses p.exchange.request → (Pipeline.transit tail p).Ends view done)
    (hstay : ¬ plan.FormPasses p.exchange.request → done p)
    (hsucceed : ¬ plan.FormPasses p.exchange.request → ∀ (f : FormLogin) a, done (f.succeed a p).2) :
    (Pipeline.transit ((plan.formLogin.toList.map fun f => .formLogin f.1 f.2) ++ tail) p).Ends view done := by
  cases hf : plan.formLogin with
  | none => exact hpass (by simp [FormPasses, hf])
  | some f =>
    have hpasses : plan.FormPasses p.exchange.request ↔
        f.1.asksPage p.exchange.request = false ∧ f.1.isSubmission p.exchange.request = false := by
      simp [FormPasses, hf]
    have hmeets (n : Nat) : (Stage.transit n (.formLogin f.1 f.2) p).Meets
        (fun q => plan.FormPasses p.exchange.request ∧ q = p) (fun _ _ q => done q) fun _ q => done q := by
      rw [Stage.transit]
      cases hpage : f.1.asksPage p.exchange.request with
      | true => exact hstay (by simp [hpasses, hpage])
      | false =>
        cases hform : f.1.isSubmission p.exchange.request with
        | false => exact ⟨⟨hpasses.2 ⟨hpage, hform⟩, rfl⟩, fun _ _ h => h⟩
        | true =>
          have hcaught : ¬ plan.FormPasses p.exchange.request := by simp [hpasses, hform]
          cases f.1.verdict f.2 p.exchange.request with
          | none => exact hstay hcaught
          | some a => exact hsucceed hcaught f.1 a
    refine Pipeline.meets_cons hmeets ?_
    rintro _ ⟨hpasses, rfl⟩
    exact hpass hpasses

/-- Basic authentication passes the request on, or challenges it, or passes it on with what it has earned. -/
theorem ends_httpBasic (plan : Plan σ)
    (hpass : plan.basicVerdict p.exchange.request = none → (Pipeline.transit tail p).Ends view done)
    (hrefuse : plan.basicVerdict p.exchange.request = some none → done p)
    (hearn : ∀ a, plan.basicVerdict p.exchange.request = some (some a) →
      (Pipeline.transit tail { p with exchange := p.exchange.authenticate a }).Ends view done) :
    (Pipeline.transit ((plan.httpBasic.toList.map fun h => .httpBasic h.1 h.2) ++ tail) p).Ends view done := by
  cases hh : plan.httpBasic with
  | none => exact hpass (by simp [basicVerdict, hh])
  | some h =>
    have hverdict : plan.basicVerdict p.exchange.request = HttpBasic.verdict h.2 p.exchange.request := by
      simp [basicVerdict, hh]
    rw [hverdict] at hpass hrefuse
    simp only [hverdict] at hearn
    have hmeets (n : Nat) : (Stage.transit n (.httpBasic h.1 h.2) p).Meets
        (fun q => (Pipeline.transit tail q).Ends view done) (fun _ _ q => done q) fun _ q => done q := by
      rw [Stage.transit]
      rcases hv : HttpBasic.verdict h.2 p.exchange.request with _ | _ | a
      · exact ⟨hpass hv, fun _ _ h => h⟩
      · exact hrefuse hv
      · exact ⟨hearn a hv, fun _ _ h => h⟩
    exact Pipeline.meets_cons hmeets fun q hq => hq

/-- The last stages keep what naming nobody as anonymous keeps. -/
theorem keeps_last (plan : Plan σ) {inv : Passage σ → Prop} (hp : inv p)
    (hanonymous : ∀ q : Passage σ, inv q → q.exchange.context.isEmpty = true →
      inv { q with exchange := q.exchange.authenticate .anonymous }) :
    (Pipeline.transit plan.lastStages p).Keeps inv := by
  refine Pipeline.keeps (fun stage hstage => ?_) hp
  rcases List.mem_append.1 hstage with h | h
  · obtain ⟨-, rfl⟩ : plan.anonymous = true ∧ stage = .anonymous := by simpa using h
    exact Stage.keeps_anonymous hanonymous
  · obtain ⟨a, -, rfl⟩ := List.mem_map.1 h
    exact Stage.keeps_authorization

end Inner

end Plan

end Portcullis
