import Portcullis.Proofs.Guard.Counts
import Portcullis.Proofs.Guard.Mediation
import Portcullis.Proofs.Guard.Refusals
import Portcullis.Proofs.Guard.Rotation
import Portcullis.Proofs.PathPattern.Everything

/-!
# Logins that fail, as they are counted

A login that is refused is counted as a failure if the page that it leads to shows an error, as its address tells. A
login that succeeds, and a client who is sent to the login page, are counted as failures on the same terms.

* `Plan.answers`: where answers of a plain chain send the client.
* `Plan.countP_showsError`: which requests are taken for logins that have failed.
* `Guard.login_failures_counted_by_page`: what is counted in a history.
-/

namespace Portcullis

variable {σ : Type}

/-! ## Where answers lead -/

/-- Does the address tell that the page shows an error? -/
def FormLogin.showsError (url : String) : Bool :=
  Text.holds "?error".toList url.toList

/-- Where an answer that sends the client elsewhere leads: after a login to where such logins lead, else to the login
page. -/
def FormLogin.target (f : FormLogin) (users : Users) (r : Request) : String :=
  if f.isSubmission r then
    match f.verdict users r with
    | none => f.failureUrl
    | some _ => f.successUrl
  else f.page

theorem Headers.get?_eq_head? (h : Headers) (name : String) : h.get? name = (h.getAll name).head? := by
  rw [get?, getAll, List.head?_map, List.head?_filter]

/-- Whether a redirect is taken for an error can be told from where it leads. -/
theorem Metrics.isErrorRedirect_eq {r : Response} {url : String} (hstatus : r.status = 302)
    (hlocation : r.headers.getAll "location" = [url]) : isErrorRedirect r = FormLogin.showsError url := by
  rw [isErrorRedirect, hstatus, Headers.get?_eq_head?, hlocation]
  simp [FormLogin.showsError]

/-- The handler's answers have status 200. -/
def Flow.AllRight (handler : Flow σ Response) : Prop :=
  ∀ p response, (handler p).1 = .ok response → response.status = 200

namespace Plan

/-- The stage for other origins lets the request pass. -/
def crosses (plan : Plan σ) (r : Request) : Bool :=
  plan.cors.all fun c => Stage.corsPasses (Cors.decide c.1 r) c.2

theorem crosses_eq_true {plan : Plan σ} {r : Request} : plan.crosses r = true ↔ plan.Crosses r := by
  simp [crosses, Crosses, Option.all_eq_true]

/-- Behind the stage for other origins, the answer sends the client elsewhere after each login, and leads where it
should. -/
structure Sends (plan : Plan σ) (r : Request) (response : Response) : Prop where
  sent : response.status = 302 → ∃ f, plan.formLogin = some f ∧
    response.headers.getAll "location" = [f.1.target f.2 r]
  submitted : ∀ f, plan.formLogin = some f → f.1.isSubmission r = true → response.status = 302

/-- The answer sends the client elsewhere after each login that form login gets to see, and leads where it should. -/
structure Answers (plan : Plan σ) (r : Request) (response : Response) : Prop where
  sent : response.status = 302 → plan.crosses r = true ∧ ∃ f, plan.formLogin = some f ∧
    response.headers.getAll "location" = [f.1.target f.2 r]
  submitted : plan.crosses r = true → ∀ f, plan.formLogin = some f → f.1.isSubmission r = true → response.status = 302

/-- Behind form login, an answer that sends the client elsewhere leads to the login page. -/
def Turns (plan : Plan σ) (outcome : Except Failure Response) : Prop :=
  ∀ response, outcome = .ok response → response.status = 302 → ∃ f, plan.formLogin = some f ∧
    response.headers.getAll "location" = [f.1.page]

/-- The rules send clients to the page of form login only. -/
def EntryFits (plan : Plan σ) : Prop :=
  ∀ rules page, plan.authorization = some (rules, .loginPage page) → ∃ f, plan.formLogin = some f ∧ f.1.page = page

theorem relay_error (plan : Plan σ) (r : Request) (e : Failure) : plan.relay r (.error e) = .error e := by
  rw [relay]
  cases plan.cors with
  | none => rfl
  | some c =>
    simp only
    rcases Cors.decide c.1 r with _ | _ | ⟨_, _ | _⟩ | _ <;> rfl

section Stages

variable [Clocked σ] {plan : Plan σ} {r : Request}

/-- Where only the outcome counts, and failures are welcome, the stage for the security context passes on the request
and the outcome. -/
theorem honours_contextStage {good : Except Failure Response → Prop} (hfailed : ∀ e, good (.error e))
    (c : Bool × Repository σ) :
    (contextStage c).Honours (fun q => q.exchange.request = r) fun outcome _ => good outcome := by
  obtain ⟨explicit, repository⟩ := c
  have hloaded {p q : Passage σ} {result : Except Failure Unit} (hp : p.exchange.request = r)
      (hq : Flow.loadContext repository { p with exchange := p.exchange.mark Stage.contextMark } = (result, q)) :
      q.exchange.request = r := by
    have hrequest := Flow.loadContext_request repository { p with exchange := p.exchange.mark Stage.contextMark }
    rw [hq, Exchange.mark_toVisit] at hrequest
    exact hrequest.trans hp
  intro n p hp
  cases explicit with
  | true =>
    refine Transit.meets_onceTransit ⟨hp, fun _ _ h => h⟩ (Transit.meets_step ?_ fun e _ _ => hfailed e)
    intro _ q hq
    have hrequest : q.exchange.request = r := hloaded hp hq
    exact ⟨hrequest, fun _ _ h => h⟩
  | false =>
    refine Transit.meets_onceTransit ⟨hp, fun _ _ h => h⟩ (Transit.meets_step ?_ fun e _ _ => hfailed e)
    intro _ q hq
    refine ⟨hloaded hp hq, fun outcome q' h => ?_⟩
    obtain hsame | ⟨e, herror⟩ := Stage.settle_fst outcome (repository.save q'.exchange.context) q'
    · simpa only [Transit.close, Transit.Meets, hsame] using h
    · simpa only [Transit.close, Transit.Meets, herror] using hfailed e

omit [Clocked σ] in
theorem turns_of_status {response : Response} (h : response.status ≠ 302) : plan.Turns (.ok response) := by
  rintro _ ⟨⟩ h'
  exact absurd h' h

theorem honours_late (hplan : plan.EntryFits) :
    ∀ stage ∈ (plan.httpBasic.toList.map fun h => .httpBasic h.1 h.2) ++ plan.lastStages,
      stage.Honours (fun q => q.exchange.request = r) fun outcome _ => plan.Turns outcome := by
  intro stage hstage n p hp
  have hpass (q : Passage σ) (hq : q.exchange.request = r) :
      (Transit.pass q).Meets (fun q => q.exchange.request = r) (fun _ outcome _ => plan.Turns outcome)
        fun outcome _ => plan.Turns outcome := ⟨hq, fun _ _ h => h⟩
  have hchallenge (realm : String) : plan.Turns (.ok (HttpBasic.challenge realm)) :=
    turns_of_status (show (401 : Nat) ≠ 302 by decide)
  have hdenied : plan.Turns (.ok accessDenied) := turns_of_status (show (403 : Nat) ≠ 302 by decide)
  simp only [lastStages, List.mem_append, List.mem_map, Option.mem_toList, List.mem_ite_nil_right,
    List.mem_singleton] at hstage
  rcases hstage with ⟨basic, -, rfl⟩ | ⟨-, rfl⟩ | ⟨⟨rules, entry⟩, hauthorization, rfl⟩
  · rw [Stage.transit]
    split
    · exact hpass p hp
    · exact hchallenge _
    · exact hpass _ hp
  · refine hpass _ ?_
    dsimp only
    split <;> exact hp
  · rw [Stage.transit]
    split
    · exact hpass p hp
    split
    · exact hdenied
    cases entry with
    | loginPage page =>
      obtain ⟨f, hf, rfl⟩ := hplan rules page hauthorization
      rintro _ ⟨⟩ -
      exact ⟨f, hf, Response.location_redirect _⟩
    | basicChallenge realm => exact hchallenge realm
    | forbidden => exact hdenied

omit [Clocked σ] in
theorem sends_target {f : FormLogin × Users} (hf : plan.formLogin = some f) :
    plan.Sends r (.redirect (f.1.target f.2 r)) :=
  ⟨fun _ => ⟨f, hf, Response.location_redirect _⟩, fun _ _ _ => rfl⟩

/-- Form login answers where its page is asked for and where a form is submitted, and nowhere else. -/
theorem meets_formLogin {f : FormLogin × Users} (hf : plan.formLogin = some f) (n : Nat) {p : Passage σ}
    (hp : p.exchange.request = r) :
    ((Stage.formLogin f.1 f.2).transit n p).Meets (fun q => q.exchange.request = r)
      (fun _ outcome _ => plan.Turns outcome)
      fun outcome _ => ∀ response, outcome = .ok response → plan.Sends r response := by
  have htarget := sends_target (r := r) hf
  rw [Stage.transit, hp]
  split
  case isTrue hasks =>
    rintro _ ⟨⟩
    refine ⟨fun h => by simp [FormLogin.pageResponse, Response.json] at h, fun f' hf' hsubmits => ?_⟩
    cases hf.symm.trans hf'
    simp only [FormLogin.asksPage, FormLogin.isSubmission, Bool.and_eq_true, decide_eq_true_eq] at hasks hsubmits
    rw [hsubmits.1] at hasks
    exact absurd hasks.1.1 (by decide)
  split
  case isTrue hsubmits =>
    rw [FormLogin.target, if_pos hsubmits] at htarget
    cases hverdict : f.1.verdict f.2 r with
    | none =>
      rw [hverdict] at htarget
      rintro _ ⟨⟩
      exact htarget
    | some a =>
      rw [hverdict] at htarget
      rintro response hresponse
      obtain hsucceeds | ⟨e, hfails⟩ := f.1.succeed_fst a p
      · cases hsucceeds.symm.trans hresponse
        exact htarget
      · cases hfails.symm.trans hresponse
  case isFalse hother =>
    refine ⟨hp, fun outcome q hturns response hresponse => ⟨fun h => ?_, fun f' hf' hsubmits => ?_⟩⟩
    · obtain ⟨f', hf', hlocation⟩ := hturns response hresponse h
      cases hf.symm.trans hf'
      exact ⟨f, hf, by rw [hlocation, FormLogin.target, if_neg hother]⟩
    · cases hf.symm.trans hf'
      exact absurd hsubmits hother

/-- What the stages behind the one for the security context make of a request. -/
theorem meets_innerStages (hplan : plan.EntryFits) {p : Passage σ} (hp : p.exchange.request = r) :
    (Pipeline.transit plan.innerStages p).Meets (fun _ => True) (fun _ outcome _ => plan.Turns outcome)
      fun outcome _ => ∀ response, outcome = .ok response → plan.Sends r response := by
  have hlate {q : Passage σ} (hq : q.exchange.request = r) := Pipeline.honours (honours_late hplan) hq
  rw [innerStages]
  cases hform : plan.formLogin with
  | none =>
    refine (hlate hp).mono (fun _ _ => trivial) (fun _ _ _ _ h => h) fun outcome q hturns => ?_
    rintro response rfl
    refine ⟨fun h => ?_, by simp [hform]⟩
    obtain ⟨f, hf, -⟩ := hturns response rfl h
    simp [hform] at hf
  | some f =>
    refine Pipeline.meets_cons (fun n => meets_formLogin hform n hp) fun q hq => ?_
    exact (hlate hq).mono (fun _ _ => trivial) (fun _ _ _ _ h => h) fun _ _ h => h

/-- What the stages from the one for the security context on make of a request. -/
theorem meets_inner (hplan : plan.EntryFits) {p : Passage σ} (hp : p.exchange.request = r) :
    (Pipeline.transit (plan.context.toList.map contextStage ++ plan.innerStages) p).Meets (fun _ => True)
      (fun _ outcome _ => plan.Turns outcome)
      fun outcome _ => ∀ response, outcome = .ok response → plan.Sends r response := by
  cases plan.context with
  | none => exact meets_innerStages hplan hp
  | some c =>
    refine Pipeline.meets_cons (fun n => honours_contextStage (fun e _ h => ?_) c n p hp)
      fun q hq => meets_innerStages hplan hq
    cases h

/-- What a plain chain makes of a request. -/
theorem answers (hplan : plan.EntryFits) {handler : Flow σ Response} (hhandler : handler.AllRight) {p : Passage σ}
    (hp : p.exchange.request = r) :
    ∀ response, (Pipeline.run handler plan.stages p).1 = .ok response → plan.Answers r response := by
  have hmeets : (Pipeline.transit plan.stages p).Meets (fun _ => True) (fun _ outcome _ => plan.Turns outcome)
      fun outcome _ => ∀ response, outcome = .ok response → plan.Answers r response := by
    rw [stages_eq_layers]
    refine plan.meets_outer (fun _ _ _ h => h) (fun hcross decision => ?_) fun c hc hrefused decision => ?_
    · rw [hp, ← crosses_eq_true] at hcross
      have hinner := meets_inner hplan (p := { p with exchange := { p.exchange with decision } }) hp
      refine hinner.mono (fun _ h => h) (fun _ _ _ _ h => h) fun outcome q hsends => ?_
      rw [hp]
      rcases outcome with e | response
      · rw [relay_error]
        nofun
      · obtain ⟨relayed, hrelayed, hstatus, hlocation⟩ := plan.exists_relayed r response
        obtain ⟨hsent, hsubmitted⟩ := hsends response rfl
        rw [hrelayed]
        rintro _ ⟨⟩
        rw [← hstatus] at hsent hsubmitted
        refine ⟨fun h => ⟨hcross, ?_⟩, fun _ => hsubmitted⟩
        rw [hlocation "location" (by simp)]
        exact hsent h
    · rintro _ ⟨⟩
      refine ⟨fun h => ?_, fun hcross => ?_⟩
      · cases hdecision : Cors.decide c.1 p.exchange.request <;> rw [hdecision] at h <;> cases h
      · rw [← hp, crosses_eq_true] at hcross
        rw [hcross c hc] at hrefused
        cases hrefused
  rw [← Pipeline.run_transit]
  refine hmeets.run fun q _ response hresponse h => ?_
  rw [hhandler q response hresponse] at h
  cases h

end Stages

/-! ## Which requests are taken for logins that have failed -/

/-- The request is a login, and form login gets to see it. -/
def submits (plan : Plan σ) (r : Request) : Bool :=
  plan.crosses r && plan.formLogin.any fun f => f.1.isSubmission r

/-- Form login accepts the credentials. -/
def accepts (plan : Plan σ) (r : Request) : Bool :=
  plan.formLogin.any fun f => (f.1.verdict f.2 r).isSome

/-- The request is a login that has been refused. -/
def refusedLogin (plan : Plan σ) (x : Request × Except Failure Response) : Bool :=
  !Metrics.failed x.2 && plan.submits x.1 && !plan.accepts x.1

/-- The request is a login that has succeeded. -/
def acceptedLogin (plan : Plan σ) (x : Request × Except Failure Response) : Bool :=
  !Metrics.failed x.2 && plan.submits x.1 && plan.accepts x.1

/-- The request is no login, and has been sent to the login page. -/
def sentToLogin (plan : Plan σ) (x : Request × Except Failure Response) : Bool :=
  Metrics.hasStatus 302 x.2 && !plan.submits x.1

variable {plan : Plan σ} {r : Request} {f : FormLogin × Users}

/-- A redirect is a refused login, a successful one or none at all, and leads accordingly. -/
theorem showsError_eq (hf : plan.formLogin = some f) {outcome : Except Failure Response}
    (h : ∀ response, outcome = .ok response → plan.Answers r response) :
    Metrics.showsError outcome =
      (plan.refusedLogin (r, outcome) && FormLogin.showsError f.1.failureUrl ||
        plan.acceptedLogin (r, outcome) && FormLogin.showsError f.1.successUrl ||
        plan.sentToLogin (r, outcome) && FormLogin.showsError f.1.page) := by
  rcases outcome with e | response
  · rfl
  obtain ⟨hsent, hsubmitted⟩ := h response rfl
  have hsubmits : plan.submits r = (plan.crosses r && f.1.isSubmission r) := by rw [submits, hf, Option.any_some]
  have haccepts : plan.accepts r = (f.1.verdict f.2 r).isSome := by rw [accepts, hf, Option.any_some]
  simp only [refusedLogin, acceptedLogin, sentToLogin, hsubmits, haccepts, Metrics.showsError, Metrics.failed,
    Metrics.hasStatus, Except.toOption, Option.any_some, Option.isNone_some, Bool.not_false, Bool.true_and]
  by_cases h302 : response.status = 302
  · obtain ⟨hcross, f', hf', hlocation⟩ := hsent h302
    cases hf.symm.trans hf'
    rw [Metrics.isErrorRedirect_eq h302 hlocation, FormLogin.target, hcross]
    cases f.1.isSubmission r <;> cases f.1.verdict f.2 r <;> simp [h302]
  · have hredirect : Metrics.isErrorRedirect response = false := by simp [Metrics.isErrorRedirect, h302]
    have hnone : (plan.crosses r && f.1.isSubmission r) = false := by
      rw [← Bool.not_eq_true, Bool.and_eq_true]
      rintro ⟨hcross, hsubmission⟩
      exact h302 (hsubmitted hcross f hf hsubmission)
    simp [hredirect, hnone, h302]

/-- Without form login nothing is taken for a login that has failed. -/
theorem showsError_eq_false (hf : plan.formLogin = none) {outcome : Except Failure Response}
    (h : ∀ response, outcome = .ok response → plan.Answers r response) : Metrics.showsError outcome = false := by
  rcases outcome with e | response
  · rfl
  have h302 : response.status ≠ 302 := fun h302 => by
    obtain ⟨-, f, hf', -⟩ := (h response rfl).sent h302
    cases hf.symm.trans hf'
  simp [Metrics.showsError, Metrics.isErrorRedirect, Except.toOption, h302]

/-- How many of the requests are taken for logins that have failed: all logins that lead to a page which shows an error,
and all clients that are sent to the login page if that shows one. -/
def failuresShown (plan : Plan σ) (outcomes : List (Request × Except Failure Response)) : Nat :=
  match plan.formLogin with
  | none => 0
  | some f =>
    (if FormLogin.showsError f.1.failureUrl then outcomes.countP plan.refusedLogin else 0) +
      (if FormLogin.showsError f.1.successUrl then outcomes.countP plan.acceptedLogin else 0) +
      if FormLogin.showsError f.1.page then outcomes.countP plan.sentToLogin else 0

/-- What is counted for one of two reasons, which do not apply at once, is counted for each of them. -/
theorem countP_or {α : Type} {p q : α → Bool} (h : ∀ x, p x = true → q x = false) (l : List α) :
    l.countP (fun x => p x || q x) = l.countP p + l.countP q := by
  induction l with
  | nil => rfl
  | cons x rest ih =>
    rw [List.countP_cons, List.countP_cons, List.countP_cons, ih]
    cases hp : p x with
    | false => simp [Nat.add_assoc]
    | true => simp [h x hp, Nat.add_right_comm]

theorem countP_and {α : Type} (p : α → Bool) (k : Bool) (l : List α) :
    l.countP (fun x => p x && k) = if k then l.countP p else 0 := by
  cases k <;> simp

theorem countP_showsError {outcomes : List (Request × Except Failure Response)}
    (h : ∀ x ∈ outcomes, ∀ response, x.2 = .ok response → plan.Answers x.1 response) :
    outcomes.countP (Metrics.showsError ·.2) = plan.failuresShown outcomes := by
  rw [failuresShown]
  cases hf : plan.formLogin with
  | none => exact List.countP_eq_zero.2 fun x hx => by simp [showsError_eq_false hf (h x hx)]
  | some f =>
    have hshows : outcomes.countP (Metrics.showsError ·.2) = outcomes.countP fun x =>
        plan.refusedLogin x && FormLogin.showsError f.1.failureUrl ||
          plan.acceptedLogin x && FormLogin.showsError f.1.successUrl ||
          plan.sentToLogin x && FormLogin.showsError f.1.page :=
      List.countP_congr fun x hx => by rw [showsError_eq hf (h x hx)]
    have hsent : ∀ x, (plan.refusedLogin x && FormLogin.showsError f.1.failureUrl ||
        plan.acceptedLogin x && FormLogin.showsError f.1.successUrl) = true →
          (plan.sentToLogin x && FormLogin.showsError f.1.page) = false := by
      intro x
      cases hsubmits : plan.submits x.1 <;> simp [refusedLogin, acceptedLogin, sentToLogin, hsubmits]
    have haccepted : ∀ x, (plan.refusedLogin x && FormLogin.showsError f.1.failureUrl) = true →
        (plan.acceptedLogin x && FormLogin.showsError f.1.successUrl) = false := by
      intro x
      cases haccepts : plan.accepts x.1 <;> simp [refusedLogin, acceptedLogin, haccepts]
    rw [hshows, countP_or hsent, countP_or haccepted, countP_and, countP_and, countP_and]

end Plan

/-! ## Histories -/

theorem Blueprint.entryFits_of_plan {b : Blueprint σ} {shared : Shared σ} {plan : Plan σ}
    (h : b.plan shared = .ok plan) : plan.EntryFits := by
  intro rules page hauthorization
  have hlogins := (logins_of_plan h).1
  have hform (f : FormLogin × Users) (hf : plan.formLogin = some f) := (exists_formLogin h hf).1
  obtain ⟨cors, -, h⟩ := Steps.bind_eq_ok_iff.1 h
  obtain ⟨form, -, h⟩ := Steps.bind_eq_ok_iff.1 h
  obtain ⟨basic, -, h⟩ := Steps.bind_eq_ok_iff.1 h
  obtain ⟨authorization, hrules, h⟩ := Steps.bind_eq_ok_iff.1 h
  cases h
  cases hauthorization
  obtain ⟨drafts, -, hread⟩ := Steps.mapM_eq_some hrules
  obtain ⟨read, -, hread⟩ := Steps.bind_eq_ok_iff.1 hread
  have hentry : b.entryPoint = .loginPage page := congrArg Prod.snd (Except.ok.inj hread)
  cases hb : b.formLogin with
  | none => cases hbasic : b.httpBasic <;> simp [entryPoint, hb, hbasic] at hentry
  | some f =>
    rw [hb] at hlogins
    obtain ⟨f', hf'⟩ := Option.isSome_iff_exists.1 hlogins
    have hsame := hform f' hf'
    simp only [entryPoint, hb, EntryPoint.loginPage.injEq] at hentry
    rw [hb] at hsame
    exact ⟨f', hf', by rw [← hentry, Option.some.inj hsame]⟩

namespace Guard

variable [Clocked σ] {g : Guard σ} {c : Chain σ} {plan : Plan σ} {d : Desk σ}

/-- The handler of the request answers with status 200, if it answers. -/
def Event.AllRight : Event σ → Prop
  | .request _ handler => handler.AllRight
  | .meanwhile _ => True

theorem answers_of_outcomes (hplan : plan.EntryFits) (hstages : c.stages = plan.stages) {history : List (Event σ)}
    (hthrough : ∀ event ∈ history, event.Through g c) (hhandlers : ∀ event ∈ history, event.AllRight) :
    ∀ x ∈ g.outcomes d history, ∀ response, x.2 = .ok response → plan.Answers x.1 response := by
  induction history with
  | nil => nofun
  | cons event past ih =>
    rw [List.forall_mem_cons] at hthrough hhandlers
    have hpast := ih hthrough.2 hhandlers.2
    cases event with
    | meanwhile f => exact hpast
    | request r handler =>
      refine List.forall_mem_cons.2 ⟨?_, hpast⟩
      rw [runRequest_eq, stagesFor_eq hthrough.1.1, hstages]
      exact Plan.answers hplan hhandlers.1 rfl

/-- What is counted in a history of requests that go through a chain: the requests, those that have not been answered,
those answered with status 403, and as failures to authenticate those answered with status 401 and those answered with a
redirect to a page that shows an error. Each count is exact up to `2 ^ 64`, where it starts over. In a plain chain,
with handlers that answer with status 200 or not at all, such redirects are the refused logins, if the page they lead to
shows an error; and the logins that have succeeded and the clients sent to the login page, if the pages that these lead
to do. -/
theorem login_failures_counted_by_page {b : Blueprint σ} {shared : Shared σ} (hb : b.CountsRequests)
    (hplan : b.plan shared = .ok plan) (hbuild : b.build shared = .ok c) {history : List (Event σ)}
    (hthrough : ∀ event ∈ history, event.Through g c) (d : Desk σ) :
    let outcomes := g.outcomes d history
    let counts := (g.after d history).metrics
    counts.requests.val = (d.metrics.requests.val + outcomes.length) % UInt64.size ∧
    counts.errors.val = (d.metrics.errors.val + outcomes.countP (Metrics.failed ·.2)) % UInt64.size ∧
    counts.denied.val = (d.metrics.denied.val + outcomes.countP (Metrics.hasStatus 403 ·.2)) % UInt64.size ∧
    counts.authFailures.val = (d.metrics.authFailures.val + (outcomes.countP (Metrics.hasStatus 401 ·.2) +
      outcomes.countP (Metrics.showsError ·.2))) % UInt64.size ∧
    (b.Plain → (∀ event ∈ history, event.AllRight) → outcomes.countP (Metrics.showsError ·.2) =
      match plan.formLogin with
      | none => 0
      | some f =>
        (if FormLogin.showsError f.1.failureUrl then outcomes.countP plan.refusedLogin else 0) +
          (if FormLogin.showsError f.1.successUrl then outcomes.countP plan.acceptedLogin else 0) +
          if FormLogin.showsError f.1.page then outcomes.countP plan.sentToLogin else 0) := by
  intro outcomes counts
  have hcounted : d.metrics.Counted (outcomes.map (·.2)) counts :=
    counted_after (Blueprint.counting_of_build hb hbuild) hthrough
  have hcountP (p : Except Failure Response → Bool) : (outcomes.map (·.2)).countP p = outcomes.countP (p ·.2) :=
    List.countP_map
  obtain ⟨hrequests, herrors, hdenied, hauthFailures⟩ := hcounted
  rw [List.length_map] at hrequests
  rw [hcountP] at herrors hdenied
  rw [hcountP, hcountP] at hauthFailures
  refine ⟨congrArg Fin.val hrequests, congrArg Fin.val herrors, congrArg Fin.val hdenied,
    congrArg Fin.val hauthFailures, fun hplain hhandlers => ?_⟩
  obtain ⟨plan', hplan', hstages, -⟩ := Blueprint.exists_plan hplain hbuild
  obtain rfl := Except.ok.inj (hplan.symm.trans hplan')
  exact Plan.countP_showsError (answers_of_outcomes (Blueprint.entryFits_of_plan hplan) hstages hthrough hhandlers)

end Guard

/-! ## A guess that is refused -/

/-- Form login whose refused logins lead to this page, and counting. -/
def Blueprint.countingLogins (failureUrl : String) : Blueprint Sessions where
  metrics := true
  formLogin := some { failureUrl }

/-- What it is built from. -/
def Plan.countingLogins (failureUrl : String) : Plan Sessions where
  tracing := false
  metrics := true
  cors := none
  context := some (false, .inSession Sessions.store true false)
  formLogin := some ({ failureUrl }, ⟨[{ username := "ann", password := "secret" }]⟩)
  httpBasic := none
  anonymous := true
  authorization := none

/-- What it is built into. -/
def Chain.countingLogins (failureUrl : String) : Chain Sessions where
  matcher := .everything
  stages := (Plan.countingLogins failureUrl).stages
  cookieName := "SESSION"

theorem Blueprint.countsRequests_countingLogins (failureUrl : String) : (countingLogins failureUrl).CountsRequests :=
  ⟨rfl, nofun, nofun⟩

theorem Blueprint.plan_countingLogins (failureUrl : String) :
    (countingLogins failureUrl).plan Shared.ofAnn = .ok (.countingLogins failureUrl) :=
  rfl

theorem Chain.build_countingLogins (failureUrl : String) :
    (Blueprint.countingLogins failureUrl).build Shared.ofAnn = .ok (.countingLogins failureUrl) := by
  have hmatcher : PathPattern.ofSetting (Blueprint.countingLogins failureUrl).matcher = .ok .everything :=
    PathPattern.ofSetting_everything
  rw [Blueprint.build_eq ⟨rfl, rfl⟩, hmatcher, Blueprint.plan_countingLogins]
  rfl

namespace Guard

/-- A guard with that chain. -/
def countingLogins (failureUrl : String) : Guard Sessions :=
  ⟨[.countingLogins failureUrl]⟩

/-- One guess at the password of `ann`. -/
def oneGuess : List (Event Sessions) :=
  [.request { method := .post, path := "/login", body := some "username=ann&password=guess" } Flow.allRight]

/-- A refused login that leads to a page whose address tells of no error is not counted. -/
theorem refused_login_not_counted :
    (Blueprint.countingLogins "/denied").build Shared.ofAnn = .ok (.countingLogins "/denied") ∧
    ((countingLogins "/denied").outcomes newDesk oneGuess).countP (Plan.countingLogins "/denied").refusedLogin = 1 ∧
    ((countingLogins "/denied").outcomes newDesk oneGuess).countP (Metrics.hasStatus 401 ·.2) = 0 ∧
    ((countingLogins "/denied").after newDesk oneGuess).metrics.authFailures.val = 0 :=
  ⟨Chain.build_countingLogins _, by decide +kernel, by decide +kernel, by decide +kernel⟩

/-- One that leads to the page that it leads to if nothing else is said is counted. -/
theorem refused_login_counted :
    ((countingLogins "/login?error").after newDesk oneGuess).metrics.authFailures.val = 1 := by
  have hthrough : ∀ event ∈ oneGuess, event.Through (countingLogins "/login?error") (.countingLogins "/login?error") :=
    List.forall_mem_singleton.2 ⟨by rfl, fun _ => rfl⟩
  have hhandlers : ∀ event ∈ oneGuess, event.AllRight :=
    List.forall_mem_singleton.2 fun _ _ h => by cases h; rfl
  obtain ⟨-, -, -, hcounted, hshown⟩ := login_failures_counted_by_page
    (Blueprint.countsRequests_countingLogins "/login?error") (Blueprint.plan_countingLogins _)
    (Chain.build_countingLogins _) hthrough newDesk
  rw [hcounted, hshown ⟨rfl, rfl⟩ hhandlers]
  decide +kernel

end Guard

end Portcullis
