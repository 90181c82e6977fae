import Portcullis.Proofs.Pipeline.Effects
import Portcullis.Proofs.Pipeline.Transit

/-!
# Contracts

What a tree may rely on from what lies ahead, and what it owes for it. A tree meets a contract when it asks only in
states that are fit to ask in, and settles only as it should, as long as what lies ahead answers as agreed.

* `Transit.Meets.run`, `Transit.Meets.of_mem_asked`: a contract holds in every run.
* `Transit.Meets.through`: the contracts of two trees, one ahead of the other.
* `Pipeline.honours`, `Pipeline.keeps`: what every stage honours or keeps, a pipeline honours or keeps.
* `Stage.corsTransit_cases`: a request from another origin.
* `Stage.keeps_autoSave` and the like: what has to be kept for a stage of the library's own to keep it.
* `Pipeline.asks_once`: the library's own stages ask what lies ahead once at most.
-/

namespace Portcullis

variable {σ : Type}

namespace Transit

/-- The tree asks only where `before` holds, and settles only where `done` holds, if what lies ahead leads from each
state it is asked in to an outcome and a state as `after` says. -/
def Meets (before : Passage σ → Prop) (after : Passage σ → Except Failure Response → Passage σ → Prop)
    (done : Except Failure Response → Passage σ → Prop) : Transit σ → Prop
  | settled outcome p => done outcome p
  | ask p next => before p ∧ ∀ outcome q, after p outcome q → (next outcome q).Meets before after done

/-- The tree stays in states of a kind, if what lies ahead does. -/
def Keeps (inv : Passage σ → Prop) : Transit σ → Prop :=
  Meets inv (fun _ _ q => inv q) fun _ q => inv q

variable {rest : Flow σ Response} {t : Transit σ}

section

variable {before before' : Passage σ → Prop} {after after' : Passage σ → Except Failure Response → Passage σ → Prop}
  {done done' : Except Failure Response → Passage σ → Prop}

theorem meets_step {α : Type} {f : Flow σ α} {next : α → Passage σ → Transit σ} {p : Passage σ}
    (hnext : ∀ a q, f p = (.ok a, q) → (next a q).Meets before after done)
    (hfail : ∀ e q, f p = (.error e, q) → done (.error e) q) : (step f next p).Meets before after done := by
  rw [step]
  split
  · exact hnext _ _ ‹_›
  · exact hfail _ _ ‹_›

theorem meets_onceTransit {mark : String} {first : Passage σ → Transit σ} {p : Passage σ}
    (hpass : (pass p).Meets before after done)
    (hfirst : (first { p with exchange := p.exchange.mark mark }).Meets before after done) :
    (Stage.onceTransit mark first p).Meets before after done := by
  rw [Stage.onceTransit]
  split
  · exact hpass
  · exact hfirst

theorem Meets.run (h : t.Meets before after done) (hrest : ∀ p, before p → after p (rest p).1 (rest p).2) :
    done (t.run rest).1 (t.run rest).2 := by
  induction t with
  | settled outcome p => exact h
  | ask p next ih => exact ih _ _ (h.2 _ _ (hrest p h.1))

theorem Meets.of_mem_asked (h : t.Meets before after done) (hrest : ∀ p, before p → after p (rest p).1 (rest p).2) :
    ∀ p ∈ t.asked rest, before p := by
  induction t with
  | settled outcome p => simp [asked]
  | ask p next ih => exact List.forall_mem_cons.2 ⟨h.1, ih _ _ (h.2 _ _ (hrest p h.1))⟩

theorem Meets.mono (h : t.Meets before after done) (hbefore : ∀ p, before p → before' p)
    (hafter : ∀ p outcome q, before p → after' p outcome q → after p outcome q)
    (hdone : ∀ outcome p, done outcome p → done' outcome p) : t.Meets before' after' done' := by
  induction t with
  | settled outcome p => exact hdone _ _ h
  | ask p next ih =>
    refine ⟨hbefore p h.1, fun outcome q hq => ?_⟩
    exact ih outcome q (h.2 outcome q (hafter p outcome q h.1 hq))

theorem Meets.andThen {f : Except Failure Response → Passage σ → Transit σ} (h : t.Meets before after done')
    (hf : ∀ outcome p, done' outcome p → (f outcome p).Meets before after done) :
    (t.andThen f).Meets before after done := by
  induction t with
  | settled outcome p => exact hf _ _ h
  | ask p next ih => exact ⟨h.1, fun outcome q hq => ih outcome q (h.2 outcome q hq)⟩

theorem Meets.through {ahead : Passage σ → Transit σ} (h : t.Meets before' after' done)
    (hahead : ∀ p, before' p → (ahead p).Meets before after (after' p)) :
    (t.through ahead).Meets before after done := by
  induction t with
  | settled outcome p => exact h
  | ask p next ih => exact (hahead p h.1).andThen fun outcome q hq => ih outcome q (h.2 outcome q hq)

end

section

variable {inv : Passage σ → Prop}

theorem keeps_pass {p : Passage σ} (hp : inv p) : (pass p).Keeps inv :=
  ⟨hp, fun _ _ h => h⟩

theorem Keeps.run (h : t.Keeps inv) (hrest : ∀ p, inv p → inv (rest p).2) : inv (t.run rest).2 :=
  Meets.run h hrest

theorem Keeps.of_mem_asked (h : t.Keeps inv) (hrest : ∀ p, inv p → inv (rest p).2) : ∀ p ∈ t.asked rest, inv p :=
  Meets.of_mem_asked h hrest

end

/-! ## Asking once at most -/

/-- The tree asks once at most. -/
def Once : Transit σ → Prop
  | settled _ _ => True
  | ask _ next => ∀ outcome q, ∃ outcome' q', next outcome q = settled outcome' q'

theorem Once.asked (h : t.Once) : t.asked rest = [] ∨ ∃ p, t.asked rest = [p] := by
  cases t with
  | settled outcome p => exact .inl rfl
  | ask p next =>
    obtain ⟨outcome, q, hnext⟩ := h (rest p).1 (rest p).2
    exact .inr ⟨p, by rw [Transit.asked, hnext, Transit.asked]⟩

theorem Once.through {ahead : Passage σ → Transit σ} (h : t.Once) (hahead : ∀ p, (ahead p).Once) :
    (t.through ahead).Once := by
  cases t with
  | settled outcome p => exact h
  | ask p next =>
    have hp := hahead p
    rw [Transit.through]
    cases hq : ahead p with
    | settled outcome q =>
      obtain ⟨outcome', q', hnext⟩ := h outcome q
      rw [andThen, hnext]
      trivial
    | ask q next' =>
      rw [hq] at hp
      intro outcome r
      obtain ⟨outcome', r', hnext'⟩ := hp outcome r
      obtain ⟨outcome'', r'', hnext⟩ := h outcome' r'
      refine ⟨outcome'', r'', ?_⟩
      simp only [hnext', andThen, hnext, Transit.through]

theorem Once.step {α : Type} {f : Flow σ α} {next : α → Passage σ → Transit σ}
    (h : ∀ a p, (next a p).Once) (p : Passage σ) : (step f next p).Once := by
  rw [Transit.step]
  split
  · exact h _ _
  · trivial

end Transit

/-- Does the decision let the request go on to what lies ahead? -/
def Stage.corsPasses : Cors.Decision → RejectPolicy → Bool
  | .allow _ preflight, _ => !preflight
  | .deny _ preflight, reject => !preflight && reject = .passThrough
  | _, _ => true

/-- What becomes of an outcome on its way back to another origin. -/
def Stage.relay : Cors.Decision → Except Failure Response → Except Failure Response
  | .allow headers false, outcome => outcome.map (mergeHeaders · headers)
  | _, outcome => outcome

/-- The answer to a request from another origin that is not passed on. -/
def Stage.corsAnswer : Cors.Decision → Response
  | .allow headers _ => ⟨200, headers, .null⟩
  | _ => invalidCors

/-- A request from another origin is passed on, and only the outcome is changed, or it is answered at once. -/
theorem Stage.corsTransit_cases (decision : Cors.Decision) (reject : RejectPolicy) (p : Passage σ) :
    (corsPasses decision reject = true ∧
      corsTransit decision reject p = .ask p fun outcome q => .settled (relay decision outcome) q) ∨
    (corsPasses decision reject = false ∧
      corsTransit decision reject p = .settled (.ok (corsAnswer decision)) p) := by
  rcases decision with _ | _ | ⟨headers, _ | _⟩ | ⟨reason, _ | _⟩
  · exact .inl ⟨rfl, rfl⟩
  · exact .inl ⟨rfl, rfl⟩
  · exact .inl ⟨rfl, rfl⟩
  · exact .inr ⟨rfl, rfl⟩
  · cases reject
    · exact .inl ⟨rfl, rfl⟩
    · exact .inr ⟨rfl, rfl⟩
  · exact .inr ⟨rfl, rfl⟩

theorem Stage.once_onceTransit {mark : String} {first : Passage σ → Transit σ} (h : ∀ p, (first p).Once)
    (p : Passage σ) : (onceTransit mark first p).Once := by
  rw [onceTransit]
  split
  · exact fun outcome q => ⟨outcome, q, rfl⟩
  · exact h _

/-! ## Pipelines -/

section Pipelines

variable [Clocked σ]

/-- A stage of the library itself, and not of the host. -/
def Stage.isOwn : Stage σ → Bool
  | .custom .. => false
  | .entered .. => false
  | _ => true

theorem Pipeline.meets_cons {before before' : Passage σ → Prop}
    {after after' : Passage σ → Except Failure Response → Passage σ → Prop}
    {done : Except Failure Response → Passage σ → Prop} {stage : Stage σ} {rest : List (Stage σ)} {p : Passage σ}
    (h : ∀ n, (stage.transit n p).Meets before' after' done)
    (hrest : ∀ q, before' q → (Pipeline.transit rest q).Meets before after (after' q)) :
    (Pipeline.transit (stage :: rest) p).Meets before after done :=
  (h rest.length).through hrest

/-- A stage that asks with the passage as it is, and changes nothing of note afterwards, may stand there or not. -/
theorem Pipeline.meets_optional {before : Passage σ → Prop}
    {after : Passage σ → Except Failure Response → Passage σ → Prop}
    {done : Except Failure Response → Passage σ → Prop} {wanted : Bool} {stage : Stage σ} {tail : List (Stage σ)}
    {p : Passage σ} (hstage : ∀ n, (stage.transit n p).Meets (· = p) (fun _ outcome q => done outcome q) done)
    (htail : (Pipeline.transit tail p).Meets before after done) :
    (Pipeline.transit ((if wanted then [stage] else []) ++ tail) p).Meets before after done := by
  cases wanted with
  | false => exact htail
  | true =>
    refine Pipeline.meets_cons hstage ?_
    rintro _ rfl
    exact htail

/-- The stage asks in states that are fit for it, and does well if what lies ahead does. -/
def Stage.Honours (fit : Passage σ → Prop) (good : Except Failure Response → Passage σ → Prop) (stage : Stage σ) :
    Prop :=
  ∀ n p, fit p → (stage.transit n p).Meets fit (fun _ outcome q => good outcome q) good

theorem Pipeline.honours {fit : Passage σ → Prop} {good : Except Failure Response → Passage σ → Prop}
    {stages : List (Stage σ)} (h : ∀ stage ∈ stages, stage.Honours fit good) {p : Passage σ} (hp : fit p) :
    (Pipeline.transit stages p).Meets fit (fun _ outcome q => good outcome q) good := by
  induction stages generalizing p with
  | nil => exact ⟨hp, fun _ _ h => h⟩
  | cons stage rest ih =>
    rw [List.forall_mem_cons] at h
    exact Pipeline.meets_cons (fun n => h.1 n p hp) fun q hq => ih h.2 hq

/-- The stage stays in states of a kind, if what lies ahead does. -/
def Stage.Keeps (inv : Passage σ → Prop) (stage : Stage σ) : Prop :=
  ∀ n p, inv p → (stage.transit n p).Keeps inv

theorem Pipeline.keeps {inv : Passage σ → Prop} {stages : List (Stage σ)} (h : ∀ stage ∈ stages, stage.Keeps inv)
    {p : Passage σ} (hp : inv p) : (Pipeline.transit stages p).Keeps inv :=
  Pipeline.honours h hp

theorem Stage.asks_once {stage : Stage σ} (h : stage.isOwn = true) (n : Nat) (p : Passage σ) :
    (stage.transit n p).Once := by
  have hpass (q : Passage σ) : (Transit.pass q).Once := fun outcome q => ⟨outcome, q, rfl⟩
  cases stage with
  | tracing => exact hpass p
  | metrics => exact fun outcome q => ⟨_, _, rfl⟩
  | cors source reject =>
    rw [transit]
    rcases corsTransit_cases (Cors.decide source p.exchange.request) reject _ with ⟨-, h⟩ | ⟨-, h⟩ <;> rw [h]
    · exact fun outcome q => ⟨_, _, rfl⟩
    · trivial
  | autoSave repository =>
    refine once_onceTransit (Transit.Once.step fun _ q => ?_) p
    exact fun outcome r => ⟨_, _, rfl⟩
  | explicitSave repository =>
    refine once_onceTransit (Transit.Once.step fun _ q => ?_) p
    exact fun outcome r => ⟨_, _, rfl⟩
  | formLogin settings users =>
    rw [transit]
    repeat' split
    all_goals first | trivial | exact hpass p
  | httpBasic realm users =>
    rw [transit]
    split
    · exact hpass p
    · trivial
    · exact hpass _
  | anonymous => exact hpass _
  | authorization rules entry =>
    rw [transit]
    repeat' split
    all_goals first | trivial | exact hpass p
  | custom name code => simp [isOwn] at h
  | entered note inner => simp [isOwn] at h

theorem Pipeline.asks_once {stages : List (Stage σ)} (h : ∀ stage ∈ stages, stage.isOwn = true) (p : Passage σ) :
    (Pipeline.transit stages p).Once := by
  induction stages generalizing p with
  | nil => exact fun outcome q => ⟨outcome, q, rfl⟩
  | cons stage rest ih =>
    rw [List.forall_mem_cons] at h
    exact (Stage.asks_once h.1 _ _).through fun q => ih h.2 q

end Pipelines

/-! ## What the library's own stages keep -/

section Own

variable [Clocked σ] {inv : Passage σ → Prop}

namespace Stage

theorem keeps_tracing : (tracing : Stage σ).Keeps inv :=
  fun _ _ hp => Transit.keeps_pass hp

theorem keeps_metrics (hmetrics : ∀ p metrics, inv p → inv { p with metrics }) : (metrics : Stage σ).Keeps inv :=
  fun _ _ hp => ⟨hp, fun _ q hq => hmetrics q _ hq⟩

theorem keeps_cors {source : Cors.Source} {reject : RejectPolicy}
    (hdecision : ∀ p decision, inv p → inv { p with exchange := { p.exchange with decision } }) :
    (cors source reject : Stage σ).Keeps inv := by
  intro n p hp
  have hp' := hdecision p (some (Cors.decide source p.exchange.request)) hp
  rw [transit]
  rcases corsTransit_cases (Cors.decide source p.exchange.request) reject _ with ⟨-, h⟩ | ⟨-, h⟩ <;> rw [h]
  · exact ⟨hp', fun _ _ hq => hq⟩
  · exact hp'

section Context

variable {repository : Repository σ}
  (hload : ∀ p, inv p → inv (Flow.loadContext repository { p with exchange := p.exchange.mark contextMark }).2)
include hload

theorem keeps_autoSave
    (hsave : ∀ p, inv p → inv (p.revisit (repository.save p.exchange.context (p.exchange.toVisit, p.backend)).2))
    (hstate : ∀ p state, inv p → inv { p with exchange := { p.exchange with state } }) :
    (autoSave repository).Keeps inv := by
  intro n p hp
  have hloaded := hload p hp
  refine Transit.meets_onceTransit (Transit.keeps_pass hp) (Transit.meets_step ?_ ?_)
  · intro _ q hq
    rw [hq] at hloaded
    refine ⟨hloaded, fun outcome q' hq' => ?_⟩
    obtain ⟨state, heq⟩ := settle_snd outcome (repository.save q'.exchange.context) q'
    simp only [Transit.close, Transit.Meets, heq]
    exact hstate _ state (hsave q' hq')
  · intro e q hq
    rw [hq] at hloaded
    exact hloaded

theorem keeps_explicitSave
    (hhook : ∀ p hook state, (∀ r, hook = some r → r = repository) → inv p →
      inv { p with exchange := { p.exchange with hook, state } }) : (explicitSave repository).Keeps inv := by
  intro n p hp
  have hloaded := hload p hp
  refine Transit.meets_onceTransit (Transit.keeps_pass hp) (Transit.meets_step ?_ ?_)
  · intro _ q hq
    rw [hq] at hloaded
    refine ⟨hhook q (some repository) q.exchange.state ?_ hloaded, fun outcome q' hq' => hhook q' none _ nofun hq'⟩
    rintro _ ⟨⟩
    rfl
  · intro e q hq
    rw [hq] at hloaded
    exact hloaded

end Context

theorem keeps_formLogin {settings : FormLogin} {users : Users}
    (hsucceed : ∀ p a, inv p → settings.isSubmission p.exchange.request = true →
      settings.verdict users p.exchange.request = some a → inv (settings.succeed a p).2) :
    (formLogin settings users : Stage σ).Keeps inv := by
  intro n p hp
  rw [transit]
  split
  · exact hp
  split
  · cases ha : settings.verdict users p.exchange.request with
    | none => exact hp
    | some a => exact hsucceed p a hp ‹_› ha
  · exact Transit.keeps_pass hp

theorem keeps_httpBasic {realm : String} {users : Users}
    (hauthenticate : ∀ p a, inv p → HttpBasic.verdict users p.exchange.request = some (some a) →
      inv { p with exchange := p.exchange.authenticate a }) : (httpBasic realm users : Stage σ).Keeps inv := by
  intro n p hp
  rw [transit]
  rcases ha : HttpBasic.verdict users p.exchange.request with _ | _ | a
  · exact Transit.keeps_pass hp
  · exact hp
  · exact Transit.keeps_pass (hauthenticate p a hp ha)

theorem keeps_anonymous
    (hauthenticate : ∀ p, inv p → p.exchange.context.isEmpty = true →
      inv { p with exchange := p.exchange.authenticate .anonymous }) : (anonymous : Stage σ).Keeps inv := by
  intro n p hp
  apply Transit.keeps_pass
  split
  · exact hauthenticate p hp ‹_›
  · exact hp

theorem keeps_authorization {rules : List Rule} {entry : EntryPoint} :
    (authorization rules entry : Stage σ).Keeps inv := by
  intro n p hp
  rw [transit]
  split
  · exact Transit.keeps_pass hp
  · split <;> exact hp

end Stage

end Own

end Portcullis
