import Portcullis.Proofs.Pipeline.Contract

/-!
# Hosts that stand aside

Code stands aside if it changes neither the security context nor the session, and fails in no repository's name but
where what lies ahead has done so. It may look at everything, answer, fail, queue other headers than the session cookie
and let time pass; and where what lies ahead has failed in a repository's name, it may pass the request on again.

What holds on the way in, and what on the way back, is left as it is by such code if it is `Calm`.

* `Flow.Leads`: from passages of one kind a step leads to outcomes and passages of another.
* `Program.StandsAside.leads`, `Stage.StandsAside.upholds`: programs and stages that stand aside.
* `Pipeline.leads_append`: stages in front of others.
-/

namespace Portcullis

variable {σ : Type}

section Notions

variable (view : σ → Sessions) (cookieName : String)

/-- To the sessions nothing is done; time may pass. -/
def Waits (f : σ → σ) : Prop :=
  ∀ s, ∃ ms, view (f s) = (view s).wait ms

/-- Between two states of a passage neither the context nor the session has been changed, nor how they are kept; time
may have passed. -/
structure Passage.Aside (p q : Passage σ) : Prop where
  request : q.exchange.request = p.exchange.request
  named : q.exchange.cookieName = p.exchange.cookieName
  session : q.exchange.session = p.exchange.session
  pending : q.exchange.pending.filter (Visit.isCookieField cookieName) =
    p.exchange.pending.filter (Visit.isCookieField cookieName)
  context : q.exchange.context = p.exchange.context
  hook : q.exchange.hook = p.exchange.hook
  repository : q.exchange.repository = p.exchange.repository
  waits : ∃ ms, view q.backend = (view p.backend).wait ms

/-- The handler stands aside. -/
def Flow.StandsAside (handler : Flow σ Response) : Prop :=
  ∀ p, p.Aside view cookieName (handler p).2 ∧ ∀ e, (handler p).1 ≠ .error (.repository e)

/-- The program stands aside, where what lies ahead has last come to the outcome `asked`, if it has been asked. -/
inductive Program.StandsAside : Option (Except Failure Response) → Program σ → Prop
  | answer {asked : Option (Except Failure Response)} (response : Response) : StandsAside asked (.answer response)
  | fail {asked : Option (Except Failure Response)} {failure : Failure}
    (hown : ∀ e, failure = .repository e → asked = some (.error failure)) : StandsAside asked (.fail failure)
  | look {asked : Option (Except Failure Response)} {next : Exchange σ → Program σ}
    (h : ∀ e, StandsAside asked (next e)) : StandsAside asked (.look next)
  | ahead {asked : Option (Except Failure Response)} {next : Nat → Program σ} (h : ∀ n, StandsAside asked (next n)) :
    StandsAside asked (.ahead next)
  | touch {asked : Option (Except Failure Response)} {f : σ → σ} {next : σ → Program σ} (hf : Waits view f)
    (h : ∀ s, StandsAside asked (next s)) : StandsAside asked (.touch f next)
  | queue {asked : Option (Except Failure Response)} {name value : String} {next : Program σ}
    (hother : Visit.isCookieField cookieName (name, value) = false) (h : StandsAside asked next) :
    StandsAside asked (.queue name value next)
  | mark {asked : Option (Except Failure Response)} (name : String) {next : Bool → Program σ}
    (h : ∀ b, StandsAside asked (next b)) : StandsAside asked (.mark name next)
  | pass {asked : Option (Except Failure Response)} {next : Except Failure Response → Program σ}
    (hagain : ∀ outcome, asked = some outcome → ∃ e, outcome = .error (.repository e))
    (h : ∀ outcome, StandsAside (some outcome) (next outcome)) : StandsAside asked (.pass next)

/-- The stage stands aside. -/
inductive Stage.StandsAside : Stage σ → Prop
  | tracing : StandsAside .tracing
  | metrics : StandsAside .metrics
  | cors (source : Cors.Source) (reject : RejectPolicy) : StandsAside (.cors source reject)
  | authorization (rules : List Rule) (entry : EntryPoint) : StandsAside (.authorization rules entry)
  | custom (name : String) {code : Program σ} (h : code.StandsAside view cookieName none) :
    StandsAside (.custom name code)
  | entered {note : σ → σ} {inner : Stage σ} (hnote : Waits view note) (h : StandsAside inner) :
    StandsAside (.entered note inner)

/-- What holds on the way in and what holds on the way back is not touched by code that stands aside. -/
structure Calm (before : Passage σ → Prop) (done : Except Failure Response → Passage σ → Prop) : Prop where
  aside : ∀ {p q}, before p → p.Aside view cookieName q → before q
  turn : ∀ {p outcome}, before p → (∀ e, outcome ≠ .error (.repository e)) → done outcome p
  back : ∀ {p q outcome outcome'}, done outcome p → p.Aside view cookieName q →
    (∀ e, outcome' = .error (.repository e) → outcome' = outcome) → done outcome' q
  again : ∀ {p e}, done (.error (.repository e)) p → before p

end Notions

variable {view : σ → Sessions} {cookieName : String}

namespace Waits

variable {f g : σ → σ}

theorem id : Waits view (fun s => s) :=
  fun _ => ⟨0, rfl⟩

theorem comp (hg : Waits view g) (hf : Waits view f) : Waits view fun s => g (f s) := by
  intro s
  obtain ⟨ms, hms⟩ := hf s
  obtain ⟨ms', hms'⟩ := hg (f s)
  refine ⟨ms + ms', hms'.trans ?_⟩
  rw [hms, Sessions.wait, Sessions.wait, Sessions.wait, Nat.add_assoc]

end Waits

namespace Passage.Aside

variable (p : Passage σ)

theorem refl : p.Aside view cookieName p :=
  ⟨rfl, rfl, rfl, rfl, rfl, rfl, rfl, 0, rfl⟩

theorem touch {f : σ → σ} (hf : Waits view f) : p.Aside view cookieName { p with backend := f p.backend } :=
  ⟨rfl, rfl, rfl, rfl, rfl, rfl, rfl, hf p.backend⟩

theorem setMetrics (metrics : Metrics) : p.Aside view cookieName { p with metrics } :=
  ⟨rfl, rfl, rfl, rfl, rfl, rfl, rfl, 0, rfl⟩

theorem setDecision (decision : Option Cors.Decision) :
    p.Aside view cookieName { p with exchange := { p.exchange with decision } } :=
  ⟨rfl, rfl, rfl, rfl, rfl, rfl, rfl, 0, rfl⟩

theorem mark (name : String) : p.Aside view cookieName { p with exchange := p.exchange.mark name } where
  request := congrArg Visit.request (p.exchange.mark_toVisit name)
  named := congrArg Visit.cookieName (p.exchange.mark_toVisit name)
  session := congrArg Visit.session (p.exchange.mark_toVisit name)
  pending := congrArg (fun v : Visit => v.pending.filter _) (p.exchange.mark_toVisit name)
  context := p.exchange.mark_context name
  hook := p.exchange.mark_hook name
  repository := p.exchange.mark_repository name
  waits := ⟨0, rfl⟩

theorem queue {name value : String} (hother : Visit.isCookieField cookieName (name, value) = false) :
    p.Aside view cookieName { p with exchange := p.exchange.queue name value } where
  request := rfl
  named := rfl
  session := rfl
  pending := by simp [Exchange.queue, hother]
  context := rfl
  hook := rfl
  repository := rfl
  waits := ⟨0, rfl⟩

end Passage.Aside

/-! ## Steps that lead from one kind of passages to another -/

/-- From passages of one kind the step leads to outcomes and passages of another kind. -/
def Flow.Leads (before : Passage σ → Prop) (done : Except Failure Response → Passage σ → Prop)
    (f : Flow σ Response) : Prop :=
  ∀ p, before p → done (f p).1 (f p).2

/-- Whatever lies ahead, if it leads from passages of one kind to outcomes and passages of the other, so does the stage
before it. -/
def Stage.Upholds [Clocked σ] (before : Passage σ → Prop) (done : Except Failure Response → Passage σ → Prop)
    (stage : Stage σ) : Prop :=
  ∀ n rest, Flow.Leads before done rest → Flow.Leads before done (stage.run ⟨n, rest⟩)

section Calmness

variable {before : Passage σ → Prop} {done : Except Failure Response → Passage σ → Prop} {rest : Flow σ Response}

theorem Flow.Leads.mono {before' : Passage σ → Prop} {done' : Except Failure Response → Passage σ → Prop}
    {f : Flow σ Response} (h : f.Leads before done) (hbefore : ∀ p, before' p → before p)
    (hdone : ∀ outcome p, done outcome p → done' outcome p) : f.Leads before' done' :=
  fun p hp => hdone _ _ (h p (hbefore p hp))

theorem Flow.StandsAside.leads {handler : Flow σ Response} (h : handler.StandsAside view cookieName)
    (hcalm : Calm view cookieName before done) : handler.Leads before done :=
  fun p hp => hcalm.turn (hcalm.aside hp (h p).1) (h p).2

/-- What holds where what lies ahead has last come to this outcome, if it has been asked. -/
def Calm.Holds (before : Passage σ → Prop) (done : Except Failure Response → Passage σ → Prop) :
    Option (Except Failure Response) → Passage σ → Prop
  | none => before
  | some outcome => done outcome

namespace Calm

variable {asked : Option (Except Failure Response)} {p q : Passage σ} (hcalm : Calm view cookieName before done)
include hcalm

theorem holds_aside (h : Holds before done asked p) (hq : p.Aside view cookieName q) : Holds before done asked q := by
  cases asked with
  | none => exact hcalm.aside h hq
  | some outcome => exact hcalm.back h hq fun _ _ => rfl

theorem holds_done {outcome : Except Failure Response} (h : Holds before done asked p)
    (hown : ∀ e, outcome = .error (.repository e) → asked = some outcome) : done outcome p := by
  cases asked with
  | none => exact hcalm.turn h fun e he => by cases hown e he
  | some outcome' => exact hcalm.back h (.refl p) fun e he => (Option.some.inj (hown e he)).symm

theorem holds_before (h : Holds before done asked p)
    (hagain : ∀ outcome, asked = some outcome → ∃ e, outcome = .error (.repository e)) : before p := by
  cases asked with
  | none => exact h
  | some outcome =>
    obtain ⟨e, rfl⟩ := hagain outcome rfl
    exact hcalm.again h

end Calm

open Calm

theorem Program.StandsAside.leads {asked : Option (Except Failure Response)} {code : Program σ}
    (hcode : code.StandsAside view cookieName asked) (hcalm : Calm view cookieName before done) (n : Nat)
    (hrest : rest.Leads before done) : (code.run ⟨n, rest⟩).Leads (Holds before done asked) done := by
  induction hcode with
  | answer response => exact fun p hp => hcalm.holds_done hp nofun
  | fail hown =>
    refine fun p hp => hcalm.holds_done hp fun e he => ?_
    exact hown e (Except.error.inj he)
  | look h ih => exact fun p hp => ih p.exchange p hp
  | ahead h ih => exact ih n
  | touch hf h ih => exact fun p hp => ih _ _ (hcalm.holds_aside hp (.touch p hf))
  | queue hother h ih => exact fun p hp => ih _ (hcalm.holds_aside hp (.queue p hother))
  | mark name h ih => exact fun p hp => ih (!p.exchange.isMarked name) _ (hcalm.holds_aside hp (.mark p name))
  | pass hagain h ih => exact fun p hp => ih (rest p).1 _ (hrest p (hcalm.holds_before hp hagain))

/-- On its way back to another origin only an answer is changed. -/
theorem Stage.relay_eq_error {decision : Cors.Decision} {outcome : Except Failure Response} {failure : Failure}
    (h : relay decision outcome = .error failure) : outcome = .error failure := by
  rcases decision with _ | _ | ⟨headers, _ | _⟩ | ⟨reason, preflight⟩
  case allow.false =>
    cases outcome with
    | error failure' => exact h
    | ok response => cases h
  all_goals exact h

variable [Clocked σ]

theorem Stage.StandsAside.upholds {stage : Stage σ} (h : stage.StandsAside view cookieName)
    (hcalm : Calm view cookieName before done) : stage.Upholds before done := by
  induction h with
  | tracing => exact fun _ _ hrest => hrest
  | metrics => exact fun n rest hrest p hp => hcalm.back (hrest p hp) (.setMetrics _ _) fun _ _ => rfl
  | cors source reject =>
    intro n rest hrest p hp
    have hp' := hcalm.aside hp (.setDecision p (some (Cors.decide source p.exchange.request)))
    rw [← run_transit, transit]
    rcases corsTransit_cases (Cors.decide source p.exchange.request) reject _ with ⟨-, h⟩ | ⟨-, h⟩ <;> rw [h]
    · refine hcalm.back (hrest _ hp') (.refl _) fun e he => ?_
      exact he.trans (relay_eq_error he).symm
    · exact hcalm.turn hp' (by rintro _ ⟨⟩)
  | authorization rules entry =>
    intro n rest hrest p hp
    simp only [run, Authorization.run, Steps.bind_apply, Flow.exchange]
    split
    · exact hrest p hp
    split
    · exact hcalm.turn hp (by rintro _ ⟨⟩)
    · exact hcalm.turn hp (by rintro _ ⟨⟩)
  | custom name h => exact fun n rest hrest => h.leads hcalm n hrest
  | entered hnote h ih => exact fun n rest hrest p hp => ih n rest hrest _ (hcalm.aside hp (.touch p hnote))

theorem Pipeline.leads_append {handler : Flow σ Response} {front tail : List (Stage σ)}
    (hfront : ∀ stage ∈ front, stage.Upholds before done)
    (htail : (Pipeline.run handler tail).Leads before done) :
    (Pipeline.run handler (front ++ tail)).Leads before done := by
  induction front with
  | nil => exact htail
  | cons stage rest ih =>
    rw [List.forall_mem_cons] at hfront
    exact hfront.1 _ _ (ih hfront.2)

end Calmness

end Portcullis
