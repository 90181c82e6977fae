import Portcullis.Proofs.Cors.Verdict
import Portcullis.Proofs.Guard.Fixation
import Portcullis.Proofs.Pipeline.Readers
import Portcullis.Proofs.Session.Renewal

/-!
# Logins that renew the session

A form login that succeeds answers with the place it leads to and with a cookie for a session whose id has just been
issued; that session, and no other, holds the login, and the one that the request has presented is gone
(`Guard.login_renews_session`). Whether the stage for the security context saves after each request or leaves saving to
others makes no difference: either way the login is saved once, after the session has been renewed.
-/

namespace Portcullis

variable {σ : Type} {view : σ → Sessions} {start : Sessions} {presented : Option SessionId} {cookieName : String}
  {store : Store σ} {always : Bool}

/-- A request has come in with this session, and nothing has been done about it but looking at that session. -/
structure Passage.Arrived (view : σ → Sessions) (start : Sessions) (presented : Option SessionId) (cookieName : String)
    (p : Passage σ) : Prop where
  visit : p.exchange.toVisit.Arrived start presented (view p.backend)
  cookie : p.exchange.cookieName = cookieName

/-- The session has been renewed, and the context is kept there. -/
structure Passage.Renewed (view : σ → Sessions) (start : Sessions) (presented : Option SessionId) (cookieName : String)
    (c : SecurityContext) (p : Passage σ) : Prop where
  visit : p.exchange.toVisit.Renewed start presented (start.supply start.issued) (view p.backend)
  cookie : p.exchange.cookieName = cookieName
  kept : (view p.backend).Offers (start.supply start.issued) c

/-- Whoever logs in, saves it nowhere yet; the session has been renewed if it was alive. -/
structure Passage.Rotated (view : σ → Sessions) (start : Sessions) (presented : Option SessionId) (cookieName : String)
    (c : SecurityContext) (p : Passage σ) : Prop where
  visit : p.exchange.toVisit.Rotated start presented (view p.backend)
  cookie : p.exchange.cookieName = cookieName
  context : p.exchange.context = c

/-- The id that is issued next is new: no session that is alive has it, and it has not been presented. -/
structure Sessions.Fresh (start : Sessions) (presented : Option SessionId) : Prop where
  distinct : start.Distinct
  unheld : start.live? (start.supply start.issued) = none
  unpresented : presented ≠ some (start.supply start.issued)

namespace Passage

variable {p : Passage σ} {f : FormLogin} {a : Authentication}

theorem Arrived.rotateSession (h : p.Arrived view start presented cookieName) (hstore : store.Prompt view)
    (hfresh : start.Fresh presented) (hrepository : p.exchange.repository = some (.inSession store true always)) :
    ∃ b visit s, Flow.rotateSession p = (.ok (.ok b), p.revisit (visit, s)) ∧
      Rotated view start presented cookieName ⟨some a⟩
        { p.revisit (visit, s) with exchange := (p.revisit (visit, s)).exchange.authenticate a } := by
  obtain ⟨b, visit, s, hrotate, hcookie, hrotated⟩ :=
    Repository.rotate_renews hstore true always h.visit hfresh.unpresented
  refine ⟨b, visit, s, ?_, hrotated, hcookie.trans h.cookie, rfl⟩
  rw [Flow.rotateSession_apply, hrepository]
  simp only [hrotate]

theorem Rotated.save {c : SecurityContext} (h : p.Rotated view start presented cookieName c)
    (hstore : store.Prompt view) (always : Bool) (hfresh : start.Fresh presented) (hc : c.isPersistable = true) :
    ∃ visit s, (Repository.inSession store true always).save p.exchange.context (p.exchange.toVisit, p.backend) =
        (.ok (), (visit, s)) ∧ (p.revisit (visit, s)).Renewed view start presented cookieName c := by
  obtain ⟨visit, s, hsave, hcookie, hrenewed, hkept⟩ :=
    Repository.save_renewed hstore always hc hfresh.distinct hfresh.unpresented h.visit
  exact ⟨visit, s, h.context ▸ hsave, hrenewed, hcookie.trans h.cookie, hkept⟩

/-- Where saving is left to the stage for the security context, a login only renews the session. -/
theorem Arrived.succeed_unsaved (h : p.Arrived view start presented cookieName) (hstore : store.Prompt view)
    (hfresh : start.Fresh presented) (hrepository : p.exchange.repository = some (.inSession store true always))
    (hhook : p.exchange.hook = none) :
    (f.succeed a p).1 = .ok (.redirect f.successUrl) ∧
      (f.succeed a p).2.Rotated view start presented cookieName ⟨some a⟩ := by
  obtain ⟨b, visit, s, hrotate, hrotated⟩ := h.rotateSession (a := a) hstore hfresh hrepository
  have hhook' : ((p.revisit (visit, s)).exchange.authenticate a).hook = none := hhook
  rw [f.succeed_apply, hrotate]
  simp only [Flow.saveContext_apply, hhook']
  exact ⟨trivial, hrotated⟩

/-- Where saving is left to others, a login saves itself. -/
theorem Arrived.succeed_saved (h : p.Arrived view start presented cookieName) (hstore : store.Prompt view)
    (hfresh : start.Fresh presented) (ha : a.isAnonymous = false)
    (hrepository : p.exchange.repository = some (.inSession store true always))
    (hhook : p.exchange.hook = some (.inSession store true always)) :
    (f.succeed a p).1 = .ok (.redirect f.successUrl) ∧
      (f.succeed a p).2.Renewed view start presented cookieName ⟨some a⟩ := by
  obtain ⟨b, visit, s, hrotate, hrotated⟩ := h.rotateSession (a := a) hstore hfresh hrepository
  have hhook' : ((p.revisit (visit, s)).exchange.authenticate a).hook = some (.inSession store true always) := hhook
  have hc : SecurityContext.isPersistable ⟨some a⟩ = true := by simp [SecurityContext.isPersistable, ha]
  obtain ⟨visit', s', hsave, hrenewed⟩ := hrotated.save hstore always hfresh hc
  rw [f.succeed_apply, hrotate]
  simp only [Flow.saveContext_apply, hhook', hsave]
  exact ⟨trivial, hrenewed.visit, hrenewed.cookie, hrenewed.kept⟩

end Passage

/-! ## Stages -/

/-- The request submits the form with the name and the password of an account that is enabled. -/
structure FormLogin.Admits (f : FormLogin) (users : Users) (u : User) (r : Request) : Prop where
  submits : f.isSubmission r = true
  credentials : f.credentials? (r.body.getD "") = some (u.username, u.password)
  found : users.find? u.username = some u
  enabled : u.enabled = true

theorem FormLogin.Admits.verdict {f : FormLogin} {users : Users} {u : User} {r : Request} (h : f.Admits users u r) :
    f.verdict users r = some (u.authentication .formLogin) :=
  Users.admit?_eq_some_iff.2 ⟨u, h.credentials, h.found, h.enabled, rfl⟩

/-- A form is submitted by `POST`, the page is asked for by `GET`. -/
theorem FormLogin.asksPage_of_isSubmission {f : FormLogin} {r : Request} (h : f.isSubmission r = true) :
    f.asksPage r = false := by
  have hpost : r.method = .post := by
    simp only [isSubmission, Bool.and_eq_true, decide_eq_true_eq] at h
    exact h.1
  have hne : (Method.post = Method.get) = False := by simp [Method.post, Method.get]
  simp [asksPage, hpost, hne]

namespace Plan

variable [Clocked σ] {f : FormLogin} {users : Users} {u : User} {rest : List (Stage σ)} {p : Passage σ}

/-- Nothing behind form login sees a form that is submitted. -/
theorem meets_submission {done : Except Failure Response → Passage σ → Prop} (h : f.Admits users u p.exchange.request)
    (hdone : done (f.succeed (u.authentication .formLogin) p).1 (f.succeed (u.authentication .formLogin) p).2) :
    (Pipeline.transit (.formLogin f users :: rest) p).Meets (fun _ => False) (fun _ _ _ => False) done := by
  have hmeets (n : Nat) : (Stage.transit n (.formLogin f users) p).Meets (fun _ => False) (fun _ _ _ => False) done := by
    rw [Stage.transit, FormLogin.asksPage_of_isSubmission h.submits, h.submits, h.verdict]
    exact hdone
  exact Pipeline.meets_cons hmeets fun _ h => h.elim

omit [Clocked σ] in
theorem load_arrived (hstore : store.Prompt view) (always : Bool) (h : p.Arrived view start presented cookieName) :
    ∃ c s, Flow.loadContext (.inSession store true always) { p with exchange := p.exchange.mark Stage.contextMark } =
        (.ok (), loaded (.inSession store true always) c s p) ∧
      (loaded (.inSession store true always) c s p).Arrived view start presented cookieName := by
  obtain ⟨c, s, hload, harrived⟩ := Repository.load_arrived hstore true always h.visit
  refine ⟨c, s, ?_, ?_, ?_⟩
  · rw [Flow.loadContext_apply]
    simp only [Exchange.mark_toVisit, hload, loaded]
  · rw [loaded_visit]
    exact harrived
  · rw [loaded_visit]
    exact h.cookie

variable (hstore : store.Prompt view) (hfresh : start.Fresh presented)
  (harrived : p.Arrived view start presented cookieName) (hmark : p.exchange.isMarked Stage.contextMark = false)
  (hadmits : f.Admits users u p.exchange.request)
include hstore hfresh harrived hmark hadmits

/-- Saving after each request: the session is renewed first, and the login is saved on the way back. -/
theorem meets_login_autoSave (hhook : p.exchange.hook = none) :
    (Pipeline.transit (.autoSave (.inSession store true always) :: .formLogin f users :: rest) p).Meets
      (fun _ => False) (fun _ _ _ => False) fun outcome q => outcome = .ok (.redirect f.successUrl) ∧
        q.Renewed view start presented cookieName ⟨some (u.authentication .formLogin)⟩ := by
  obtain ⟨c, s, hload, hloaded⟩ := load_arrived hstore always harrived
  have hlogin : (Pipeline.transit (.formLogin f users :: rest) (loaded (.inSession store true always) c s p)).Meets
      (fun _ => False) (fun _ _ _ => False) fun outcome q => outcome = .ok (.redirect f.successUrl) ∧
        q.Rotated view start presented cookieName ⟨some (u.authentication .formLogin)⟩ :=
    meets_submission (by rwa [loaded_visit]) (hloaded.succeed_unsaved hstore hfresh rfl (by rwa [loaded_hook]))
  refine meets_autoSave hmark hload hlogin ?_
  rintro _ q ⟨rfl, hrotated⟩
  obtain ⟨visit, t, hsave, hrenewed⟩ := hrotated.save hstore always hfresh rfl
  simp only [Transit.close, Stage.settle_apply hsave]
  exact ⟨rfl, hrenewed.visit, hrenewed.cookie, hrenewed.kept⟩

/-- Saving left to others: the login saves itself after the session has been renewed. -/
theorem meets_login_explicitSave :
    (Pipeline.transit (.explicitSave (.inSession store true always) :: .formLogin f users :: rest) p).Meets
      (fun _ => False) (fun _ _ _ => False) fun outcome q => outcome = .ok (.redirect f.successUrl) ∧
        q.Renewed view start presented cookieName ⟨some (u.authentication .formLogin)⟩ := by
  obtain ⟨c, s, hload, hloaded⟩ := load_arrived hstore always harrived
  refine meets_explicitSave hmark hload (fun _ _ _ h => ⟨h.1, h.2.visit, h.2.cookie, h.2.kept⟩) ?_
  have hhooked : Passage.Arrived view start presented cookieName
      (hooked (.inSession store true always) (loaded (.inSession store true always) c s p)) :=
    ⟨hloaded.visit, hloaded.cookie⟩
  refine meets_submission ?_ (hhooked.succeed_saved hstore hfresh rfl rfl rfl)
  rwa [hooked, loaded_visit]

end Plan

/-! ## The answer -/

/-- The answer sends the client to where a login that succeeds leads, and sets no cookies itself. -/
def FormLogin.Welcomes (f : FormLogin) (outcome : Except Failure Response) : Prop :=
  ∃ response, outcome = .ok response ∧ response.status = 302 ∧
    response.headers.getAll "location" = [f.successUrl] ∧ response.headers.getAll "set-cookie" = []

theorem Headers.location_ne_cookie : Text.sameIgnoringCase "location" "set-cookie" = false := by
  decide +kernel

theorem Response.location_redirect (location : String) :
    (redirect location).headers.getAll "location" = [location] := by
  rw [redirect, Headers.getAll_singleton, if_pos (Text.sameIgnoringCase_self _)]

theorem FormLogin.redirect_welcomes (f : FormLogin) : f.Welcomes (.ok (.redirect f.successUrl)) := by
  refine ⟨_, rfl, rfl, Response.location_redirect _, ?_⟩
  rw [Response.redirect, Headers.getAll_singleton, Headers.location_ne_cookie, if_neg Bool.false_ne_true]

/-- On its way back through the stage for other origins an answer keeps its status, and where it sends the client. -/
theorem Plan.exists_relayed (plan : Plan σ) (r : Request) (response : Response) :
    ∃ relayed, plan.relay r (.ok response) = .ok relayed ∧ relayed.status = response.status ∧
      ∀ name ∈ ["location", "set-cookie"], relayed.headers.getAll name = response.headers.getAll name := by
  rw [Plan.relay]
  cases plan.cors with
  | none => exact ⟨response, rfl, rfl, fun _ _ => rfl⟩
  | some c =>
    obtain ⟨relayed, hrelayed, hstatus, hsame⟩ := Stage.relay_ok (Cors.decide c.1 r) response
    refine ⟨relayed, hrelayed, hstatus, fun name hname => hsame name ?_ fun headers preflight hdecision => ?_⟩
    · rw [Text.sameIgnoringCase_comm]
      exact Cors.names_ne_redirect name hname "vary" (by simp [Cors.readerNames])
    · obtain ⟨policy, answer, -, hspeaks⟩ := Cors.granted_of_decide hdecision
      exact hspeaks.getAll_other (Cors.names_ne_redirect name hname)

theorem FormLogin.Welcomes.relay {f : FormLogin} {outcome : Except Failure Response} (h : f.Welcomes outcome)
    (plan : Plan σ) (r : Request) : f.Welcomes (plan.relay r outcome) := by
  obtain ⟨response, rfl, hstatus, hlocation, hcookie⟩ := h
  obtain ⟨relayed, hrelayed, hstatus', hkept⟩ := plan.exists_relayed r response
  exact ⟨relayed, hrelayed, hstatus'.trans hstatus, (hkept _ (by simp)).trans hlocation,
    (hkept _ (by simp)).trans hcookie⟩

/-- With what has been queued, the answer sets one cookie: the one for the renewed session. -/
theorem Passage.Renewed.finish {c : SecurityContext} {q : Passage σ} (h : q.Renewed view start presented cookieName c)
    {f : FormLogin} {outcome : Except Failure Response} (houtcome : f.Welcomes outcome) :
    ∃ response, outcome = .ok response ∧ (q.exchange.finish response).status = 302 ∧
      (q.exchange.finish response).headers.getAll "location" = [f.successUrl] ∧
      (q.exchange.finish response).headers.getAll "set-cookie" =
        [Cookie.render cookieName (start.supply start.issued).text] := by
  obtain ⟨response, rfl, hstatus, hlocation, hnone⟩ := houtcome
  have hpending : q.exchange.pending = [("set-cookie", Cookie.render cookieName (start.supply start.issued).text)] := by
    rw [h.visit.pending, h.cookie]
  have hother (value : String) : Headers.named "location" ("set-cookie", value) = false := by
    rw [Headers.named, Text.sameIgnoringCase_comm]
    exact Headers.location_ne_cookie
  have hsame (value : String) : Headers.named "set-cookie" ("set-cookie", value) = true := Text.sameIgnoringCase_self _
  refine ⟨response, rfl, hstatus, ?_, ?_⟩
  · rw [Exchange.getAll_finish, hpending, hlocation, Headers.getAll_cons, hother, if_neg Bool.false_ne_true]
    rfl
  · rw [Exchange.getAll_finish, hpending, hnone, Headers.getAll_cons, if_pos (hsame _)]
    rfl

/-! ## Guards -/

/-- Form login has been asked for, with no stage of the host before it, and the chain keeps contexts in sessions, which
it opens where there is something to keep. -/
structure Blueprint.LogsIn (b : Blueprint σ) (f : FormLogin) : Prop extends b.PlainToLogin where
  form : b.formLogin = some f
  enabled : b.context.disabled = false
  repository : b.context.repository = none
  opens : b.session.policy = .ifRequired ∨ b.session.policy = .always

theorem Blueprint.LogsIn.context {b : Blueprint σ} {shared : Shared σ} {plan : Plan σ} {f : FormLogin} (h : b.LogsIn f)
    (hfound : b.Found shared plan) :
    ∃ explicit always, plan.context = some (explicit, .inSession shared.store true always) := by
  have hcontext := hfound.context
  rw [h.enabled, h.repository, Option.getD_none, if_neg Bool.false_ne_true] at hcontext
  rcases h.opens with hpolicy | hpolicy <;> rw [hpolicy] at hcontext
  · exact ⟨_, false, hcontext⟩
  · exact ⟨_, true, hcontext⟩

theorem Plan.meets_login [Clocked σ] {plan : Plan σ} {explicit : Bool} {f : FormLogin} {users : Users} {u : User}
    {rest : List (Stage σ)} {p : Passage σ} (hcontext : plan.context = some (explicit, .inSession store true always))
    (hform : plan.formLogin = some (f, users)) (hstore : store.Prompt view) (hfresh : start.Fresh presented)
    (harrived : p.Arrived view start presented cookieName) (hmark : p.exchange.isMarked Stage.contextMark = false)
    (hhook : p.exchange.hook = none) (hadmits : f.Admits users u p.exchange.request)
    (hcross : plan.Crosses p.exchange.request) :
    (Pipeline.transit (plan.early.map (·.2) ++ rest) p).Meets (fun _ => False) (fun _ _ _ => False)
      fun outcome q => f.Welcomes outcome ∧
        q.Renewed view start presented cookieName ⟨some (u.authentication .formLogin)⟩ := by
  rw [early_stages, hcontext, hform, List.append_assoc]
  refine plan.meets_outer (fun _ _ _ h => ⟨h.1, h.2.visit, h.2.cookie, h.2.kept⟩) (fun _ decision => ?_)
    fun c hc hrefused _ => ?_
  · have harrived' : Passage.Arrived view start presented cookieName
        { p with exchange := { p.exchange with decision } } := ⟨harrived.visit, harrived.cookie⟩
    have hmeets : (Pipeline.transit (contextStage (explicit, .inSession store true always) :: .formLogin f users :: rest)
        { p with exchange := { p.exchange with decision } }).Meets (fun _ => False) (fun _ _ _ => False)
          fun outcome q => outcome = .ok (.redirect f.successUrl) ∧
            q.Renewed view start presented cookieName ⟨some (u.authentication .formLogin)⟩ := by
      cases explicit with
      | false => exact meets_login_autoSave hstore hfresh harrived' hmark hadmits hhook
      | true => exact meets_login_explicitSave hstore hfresh harrived' hmark hadmits
    refine hmeets.mono (fun _ h => h) (fun _ _ _ _ h => h) ?_
    rintro _ q ⟨rfl, hrenewed⟩
    exact ⟨f.redirect_welcomes.relay plan _, hrenewed⟩
  · rw [hcross c hc] at hrefused
    cases hrefused

namespace Guard

variable [Clocked σ] {g : Guard σ} {r : Request} {d : Desk σ}

/-- A form login that succeeds is answered with the place it leads to and with a cookie for a session that has just been
issued and that holds the login. The session that the request has presented is gone, and all others are as they were.
The request gets past the stage for other origins; whatever stands behind form login, the handler included, has no part
in it. -/
theorem login_renews_session {b : Blueprint σ} {shared : Shared σ} {c : Chain σ} {f : FormLogin} {users : Users}
    {u : User} (hb : b.LogsIn f) (hbuild : b.build shared = .ok c) (hstore : shared.store.Prompt view)
    (husers : shared.users = some users) (hchain : g.chainFor? r.path = some c) (hadmits : f.Admits users u r)
    (hcross : ∀ source reject, .cors source reject ∈ c.stages →
      Stage.corsPasses (Cors.decide source r) reject = true)
    (hfresh : (view d.backend).Fresh (g.presented r)) (handler : Flow σ Response) :
    (g.serve handler r d).1.status = 302 ∧ (g.serve handler r d).1.headers.getAll "location" = [f.successUrl] ∧
    (∀ id, g.presented r = some id → (view (g.serve handler r d).2.backend).live? id = none) ∧
    (∃ fresh, (view d.backend).Issues (view (g.serve handler r d).2.backend) fresh ∧
      (g.serve handler r d).1.headers.getAll "set-cookie" = [Cookie.render c.cookieName fresh.text] ∧
      (view (g.serve handler r d).2.backend).Offers fresh ⟨some (u.authentication .formLogin)⟩) ∧
    ∀ id session, g.presented r ≠ some id → (view d.backend).live? id = some session →
      (view (g.serve handler r d).2.backend).live? id = some session := by
  obtain ⟨plan, rest, hplan, hstages⟩ := Blueprint.exists_plan_toLogin hb.toPlainToLogin hbuild
  obtain ⟨explicit, always, hcontext⟩ := hb.context (Blueprint.found_of_plan hplan)
  have hform := Blueprint.formLogin_of_plan hplan hb.form husers
  have hcookieName : (g.enter r d).exchange.cookieName = c.cookieName := by
    rw [enter, newExchange, hchain]
    rfl
  have harrived : (g.enter r d).Arrived view (view d.backend) (g.presented r) c.cookieName :=
    ⟨⟨rfl, rfl, .refl _ _⟩, hcookieName⟩
  have hcrosses : plan.Crosses (g.enter r d).exchange.request := by
    intro cors hcors
    refine hcross cors.1 cors.2 ?_
    rw [hstages, Plan.early_stages, Plan.outerStages, hcors]
    simp
  obtain ⟨hwelcomes, hrenewed⟩ : f.Welcomes ((g.transit (g.enter r d)).run handler).1 ∧
      ((g.transit (g.enter r d)).run handler).2.Renewed view (view d.backend) (g.presented r) c.cookieName
        ⟨some (u.authentication .formLogin)⟩ := by
    rw [transit_enter hchain, hstages]
    exact (Plan.meets_login hcontext hform hstore hfresh harrived rfl rfl hadmits hcrosses).run fun _ h => h.elim
  obtain ⟨response, hresponse, hstatus, hlocation, hcookie⟩ := hrenewed.finish hwelcomes
  rw [serve_eq, hresponse]
  refine ⟨hstatus, hlocation, hrenewed.visit.renews.gone,
    ⟨_, hrenewed.visit.renews.issues, hcookie, hrenewed.kept⟩, fun id session hother hsession => ?_⟩
  have hne : id ≠ (view d.backend).supply (view d.backend).issued := by
    rintro rfl
    rw [hfresh.unheld] at hsession
    cases hsession
  exact (hrenewed.visit.renews.others id hne hother).trans hsession

end Guard

/-! ## A chain with form login -/

/-- Form login, and nothing else but what every chain has. -/
def Chain.formOnly : Chain Sessions where
  matcher := ⟨"/**", [.anyDepth]⟩
  stages := [.autoSave (.inSession Sessions.store true false),
    .formLogin {} ⟨[{ username := "ann", password := "secret" }]⟩, .anonymous]
  cookieName := "SESSION"

theorem Chain.build_formOnly : Blueprint.build { formLogin := some {} } Shared.ofAnn = .ok Chain.formOnly := by
  rw [Blueprint.build_eq ⟨rfl, rfl⟩]
  rfl

/-- The form that `ann` submits, with a session id that somebody has planted. -/
def Request.formOfAnn : Request where
  method := .post
  path := "/login"
  cookies := [("SESSION", (Ulid.ofNat 0).text)]
  body := some "username=ann&password=secret"

theorem FormLogin.admits_formOfAnn : FormLogin.Admits {} ⟨[{ username := "ann", password := "secret" }]⟩
    { username := "ann", password := "secret" } Request.formOfAnn where
  submits := by decide
  credentials := by decide +kernel
  found := by decide
  enabled := rfl

theorem Blueprint.logsIn_formOnly : LogsIn ({ formLogin := some {} } : Blueprint Sessions) {} where
  toPlainToLogin := Plain.toLogin ⟨rfl, rfl⟩
  form := rfl
  enabled := rfl
  repository := rfl
  opens := .inl rfl

namespace Guard

/-- A guard with that chain. -/
def formOnly : Guard Sessions :=
  ⟨[.formOnly]⟩

theorem presented_formOfAnn : formOnly.presented Request.formOfAnn = some (Ulid.ofNat 0) := by
  decide

theorem fresh_plantedDesk : plantedDesk.backend.Fresh (formOnly.presented Request.formOfAnn) where
  distinct := Sessions.Distinct.create List.nodup_nil
  unheld := by decide
  unpresented := by
    rw [presented_formOfAnn]
    decide

/-- `ann` leaves the planted session behind. -/
theorem planted_session_left :
    formOnly.presented Request.formOfAnn = some (Ulid.ofNat 0) ∧
    (plantedDesk.backend.live? (Ulid.ofNat 0)).isSome = true ∧
    (formOnly.serve Flow.allRight Request.formOfAnn plantedDesk).2.backend.live? (Ulid.ofNat 0) = none ∧
    ∃ fresh, (formOnly.serve Flow.allRight Request.formOfAnn plantedDesk).1.headers.getAll "set-cookie" =
        [Cookie.render "SESSION" fresh.text] ∧
      (formOnly.serve Flow.allRight Request.formOfAnn plantedDesk).2.backend.Offers fresh
        ⟨some ⟨"ann", [], true, .formLogin⟩⟩ := by
  have hlive : (plantedDesk.backend.live? (Ulid.ofNat 0)).isSome = true := by decide +kernel
  obtain ⟨-, -, hgone, ⟨fresh, -, hcookie, hoffers⟩, -⟩ := login_renews_session Blueprint.logsIn_formOnly
    Chain.build_formOnly Sessions.store_prompt rfl (rfl : formOnly.chainFor? Request.formOfAnn.path = _)
    FormLogin.admits_formOfAnn (by simp [Chain.formOnly]) fresh_plantedDesk Flow.allRight
  exact ⟨presented_formOfAnn, hlive, hgone _ presented_formOfAnn, fresh, hcookie, hoffers⟩

end Guard

end Portcullis
