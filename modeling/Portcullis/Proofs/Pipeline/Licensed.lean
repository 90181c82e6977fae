import Portcullis.Proofs.Pipeline.Licence

/-!
# Runs within a licence

Programs, stages and pipelines that keep within a licence take the steps that it allows and no others, and answer with
fields that it lets pass.

* `Program.Within.noted`, `Stage.Within.noted`, `Pipeline.within_noted`: one lemma for each construct.
* `Pipeline.exists_trace`: the steps of a run.
-/

namespace Portcullis

variable {σ α β : Type}

/-- Saving through the hook: besides what the repository does, only the state of the context may change. -/
theorem Flow.saveContext_snd (p : Passage σ) {repository : Repository σ} (hhook : p.exchange.hook = some repository) :
    ∃ state, (saveContext p).2 =
      let saved := p.revisit (repository.save p.exchange.context (p.exchange.toVisit, p.backend)).2
      { saved with exchange := { saved.exchange with state } } := by
  rw [saveContext_apply, hhook]
  simp only
  rcases repository.save p.exchange.context (p.exchange.toVisit, p.backend) with ⟨e | u, after⟩
  · exact ⟨p.exchange.state, rfl⟩
  · exact ⟨.saved, rfl⟩

namespace Noted

/-- From this passage the step goes on within the licence, and comes back with results that are good. -/
def GoesOn (l : Licence σ) (r : Request) (good : α → Prop) (noted : Noted σ α) (p : Passage σ) : Prop :=
  noted.Leads p fun result q journal => l.Trace p journal q ∧ q.Held l r ∧ ∀ a, result = .ok a → good a

/-- It does so from every passage about the request. -/
def Within (l : Licence σ) (r : Request) (good : α → Prop) (noted : Noted σ α) : Prop :=
  ∀ p : Passage σ, p.Held l r → noted.GoesOn l r good p

variable {l : Licence σ} {r : Request} {good : α → Prop} {good' : β → Prop} {p : Passage σ}

theorem goesOn_take {f : Flow σ α} {deed : Passage σ → Except Failure α → Deed}
    (hstep : l.Step p ⟨deed p (f p).1, (f p).2.exchange⟩ (f p).2) (hheld : (f p).2.Held l r)
    (hgood : ∀ a, (f p).1 = .ok a → good a) : (take f deed).GoesOn l r good p :=
  leads_take ⟨.step hstep (.refl _), hheld, hgood⟩

theorem GoesOn.bind {noted : Noted σ α} {next : α → Noted σ β} (h : noted.GoesOn l r good p)
    (hnext : ∀ a, good a → (next a).Within l r good') : (noted >>= next).GoesOn l r good' p := by
  refine Leads.bind (Leads.mono h fun result q new hpost => ?_)
  obtain ⟨htrace, hheld, hgood⟩ := hpost
  cases result with
  | error e => exact ⟨htrace, hheld, nofun⟩
  | ok a =>
    refine Leads.mono (hnext a (hgood a rfl) q hheld) fun result' q' new' hpost' => ?_
    obtain ⟨htrace', hheld', hgood'⟩ := hpost'
    exact ⟨htrace.trans htrace', hheld', hgood'⟩

theorem Within.bind {noted : Noted σ α} {next : α → Noted σ β} (h : noted.Within l r good)
    (hnext : ∀ a, good a → (next a).Within l r good') : (noted >>= next).Within l r good' :=
  fun p hp => (h p hp).bind hnext

theorem within_resume {result : Except Failure α} (h : ∀ a, result = .ok a → good a) :
    (resume result : Noted σ α).Within l r good :=
  fun p hp => leads_resume ⟨.refl p, hp, h⟩

theorem within_pure {a : α} (h : good a) : (pure a : Noted σ α).Within l r good :=
  fun _ hp => leads_pure ⟨.refl _, hp, fun _ ha => Except.ok.inj ha ▸ h⟩

theorem within_throw (e : Failure) : (throw e : Noted σ α).Within l r good :=
  fun _ hp => leads_resume ⟨.refl _, hp, nofun⟩

/-- Going on with an outcome of which nothing is asked. -/
theorem within_resume_any (result : Except Failure α) : (resume result : Noted σ α).Within l r fun _ => True :=
  within_resume fun _ _ => trivial

theorem Within.outcome {noted : Noted σ α} (h : noted.Within l r good) :
    (Noted.outcome noted).Within l r fun result => ∀ a, result = .ok a → good a := by
  intro p hp
  refine Leads.outcome (Leads.mono (h p hp) fun result q new hpost => ?_)
  obtain ⟨htrace, hheld, hgood⟩ := hpost
  exact ⟨htrace, hheld, fun result' hresult a ha => hgood a ((Except.ok.inj hresult).trans ha)⟩

theorem Within.discard {noted : Noted σ α} (h : noted.Within l r good) :
    (Functor.discard noted).Within l r fun _ => True := by
  have heq : Functor.discard noted = noted >>= fun _ => resume (.ok ⟨⟩) :=
    map_eq_pure_bind (Function.const α PUnit.unit) noted
  rw [heq]
  exact h.bind fun _ _ => within_resume fun _ _ => trivial

/-! ### Single steps -/

/-- A step that only looks. -/
theorem within_read {f : Flow σ α} (hexchange : ∀ p, (f p).2.exchange = p.exchange)
    (hbackend : ∀ p, (f p).2.backend = p.backend) : (step f).Within l r fun _ => True := by
  intro p hp
  refine goesOn_take (.still ?_ (hbackend p) ?_ rfl rfl) ?_ fun _ _ => trivial
  · rw [hexchange]
  · rw [hexchange]
  · constructor <;> rw [hexchange]
    · exact hp.request
    · exact hp.hook
    · exact hp.repository

/-- A look at the exchange, with what is done next about it. -/
theorem goesOn_look {next : Exchange σ → Noted σ β} (h : (next p.exchange).GoesOn l r good' p) :
    (step Flow.exchange >>= next).GoesOn l r good' p := by
  refine Leads.bind (leads_take ?_)
  refine Leads.mono h fun result q new hpost => ?_
  obtain ⟨htrace, hheld, hgood⟩ := hpost
  exact ⟨.step (.still rfl rfl rfl rfl rfl) htrace, hheld, hgood⟩

/-- A look at the request. -/
theorem within_request : (step Flow.request : Noted σ Request).Within l r fun request => request = r := by
  intro p hp
  refine goesOn_take (.still rfl rfl rfl rfl rfl) hp fun request h => ?_
  exact (Except.ok.inj h).symm.trans hp.request

/-- A change to the exchange that leaves the visit and the repositories alone. -/
theorem within_update {f : Exchange σ → Exchange σ} {deed : Passage σ → Except Failure Unit → Deed}
    (hvisit : ∀ e, (f e).toVisit = e.toVisit) (hrepository : ∀ e, (f e).repository = e.repository)
    (hhook : ∀ e repository, (f e).hook = some repository → e.hook = some repository ∨ l.repositories repository)
    (hsave : ∀ p result, (deed p result).isSave = false) (hload : ∀ p result, (deed p result).isLoad = false) :
    (take (Flow.update f) deed).Within l r fun _ => True := by
  intro p hp
  refine goesOn_take (.still (hvisit _) rfl (hrepository _) (hsave _ _) (hload _ _)) ?_ fun _ _ => trivial
  refine ⟨?_, fun repository h => ?_, fun repository h => ?_⟩
  · exact (congrArg Visit.request (hvisit p.exchange)).trans hp.request
  · rcases hhook p.exchange repository h with h | h
    · exact hp.hook repository h
    · exact h
  · exact hp.repository repository ((hrepository p.exchange).symm.trans h)

theorem within_context (f : Exchange σ → SecurityContext) :
    (step (Flow.update fun e => { e with context := f e })).Within l r fun _ => True :=
  within_update (fun _ => rfl) (fun _ => rfl) (fun _ _ h => .inl h) (fun _ _ => rfl) fun _ _ => rfl

theorem within_mark (name : String) : (step (Flow.update (·.mark name)) : Noted σ Unit).Within l r fun _ => True :=
  within_update (fun e => e.mark_toVisit name) (fun e => e.mark_repository name)
    (fun e _ h => .inl ((e.mark_hook name).symm.trans h)) (fun _ _ => rfl) fun _ _ => rfl

theorem within_touch {f : σ → α × σ} (hf : l.behind fun s => (f s).2) :
    (step (Flow.touch f)).Within l r fun _ => True := by
  intro p hp
  exact goesOn_take (.of_effect (.behind hf _ _) rfl rfl rfl) ⟨hp.request, hp.hook, hp.repository⟩ fun _ _ => trivial

theorem within_bind (hb : l.binds) (id : SessionId) :
    (step (Flow.update (·.bindSession id)) : Noted σ Unit).Within l r fun _ => True := by
  intro p hp
  exact goesOn_take (.of_effect (.bind hb id _ _) rfl rfl rfl) ⟨hp.request, hp.hook, hp.repository⟩ fun _ _ => trivial

theorem within_queue {name value : String} (hq : l.Lets [(name, value)]) :
    (step (Flow.update (·.queue name value)) : Noted σ Unit).Within l r fun _ => True := by
  intro p hp
  exact goesOn_take (.of_effect (.queue hq _ _) rfl rfl rfl) ⟨hp.request, hp.hook, hp.repository⟩ fun _ _ => trivial

/-- Loading: where it succeeds, the exchange knows the repository. -/
theorem within_load {repository : Repository σ} (hr : l.repositories repository) (mode : SaveMode) :
    (take (Flow.loadContext repository) fun _ loaded => .load mode loaded.isOk).Within l r fun _ => True := by
  intro p hp
  have heffect (context : SecurityContext) : l.Effect context false (p.exchange.toVisit, p.backend)
      (p.exchange.toVisit, (repository.load p.exchange.toVisit p.backend).2) := .load hr _ _
  refine goesOn_take ?_ ?_ fun _ _ => trivial
  · rw [Flow.loadContext_apply]
    rcases hload : repository.load p.exchange.toVisit p.backend with ⟨e | context, s⟩
    · rw [hload] at heffect
      refine ⟨rfl, heffect _, ?_⟩
      simp [Except.isOk, Except.toBool]
    · rw [hload] at heffect
      refine ⟨rfl, heffect _, ?_⟩
      simp [Except.isOk, Except.toBool]
  · rw [Flow.loadContext_apply]
    rcases repository.load p.exchange.toVisit p.backend with ⟨e | context, s⟩
    · exact ⟨hp.request, hp.hook, hp.repository⟩
    · refine ⟨hp.request, hp.hook, fun other h => ?_⟩
      cases h
      exact hr

theorem within_rotate (hs : l.sessions) : (step Flow.rotateSession : Noted σ _).Within l r fun _ => True := by
  intro p hp
  refine goesOn_take ?_ ?_ fun _ _ => trivial
  all_goals rw [Flow.rotateSession_apply]; cases hrepository : p.exchange.repository
  case refine_1.none => exact .still rfl rfl rfl rfl rfl
  case refine_1.some repository => exact .of_effect (.rotate (hp.repository _ hrepository) hs _ _) rfl rfl rfl
  case refine_2.none => exact hp
  case refine_2.some repository =>
    have hr := hp.repository _ hrepository
    exact ⟨(l.keepsRequest _ hr).rotate r _ _ hp.request, hp.hook, hp.repository⟩

/-- Saving the context that the exchange has. -/
theorem goesOn_save {repository : Repository σ} (hr : l.repositories repository) (hs : l.sessions)
    {deed : Passage σ → Except Failure (Except RepositoryError Unit) → Deed} (hp : p.Held l r)
    (hsave : ∀ p result, (deed p result).isSave = true) (hload : ∀ p result, (deed p result).isLoad = false) :
    (take (Flow.onVisit (repository.save p.exchange.context)) deed).GoesOn l r (fun _ => True) p := by
  refine goesOn_take ?_ ?_ fun _ _ => trivial
  · exact .of_effect (.save hr hs _ _) rfl (hsave _ _) (hload _ _)
  · exact ⟨(l.keepsRequest _ hr).save r _ _ _ hp.request, hp.hook, hp.repository⟩

/-- Saving through the hook; where there is none, nothing happens. -/
theorem within_saveContext (hs : l.sessions) : (Noted.saveContext : Noted σ _).Within l r fun _ => True := by
  intro p hp
  cases hhook : p.exchange.hook with
  | none =>
    have hnothing : Flow.saveContext p = (.ok (.ok false), p) := by
      rw [Flow.saveContext_apply, hhook]
    refine goesOn_take ?_ ?_ fun _ _ => trivial
    · rw [hnothing]
      simp only [hhook]
      exact .still rfl rfl rfl rfl rfl
    · rw [hnothing]
      exact hp
  | some repository =>
    obtain ⟨state, hafter⟩ := Flow.saveContext_snd p hhook
    have hr := hp.hook _ hhook
    refine goesOn_take ?_ ?_ fun _ _ => trivial
    · rw [hhook, Option.isSome_some, if_pos rfl]
      exact .save hr hs hafter rfl rfl
    · rw [hafter]
      exact ⟨(l.keepsRequest _ hr).save r _ _ _ hp.request, hp.hook, hp.repository⟩

end Noted

open Noted (step take outcome resume within_resume within_resume_any within_pure within_throw within_read
  within_request within_update within_context within_mark within_touch within_bind within_queue within_load
  within_rotate within_saveContext goesOn_look goesOn_save)

variable {l : Licence σ} {r : Request}

/-- The step answers, if it answers, with fields that the licence lets pass. -/
abbrev Noted.Answers (l : Licence σ) (r : Request) (noted : Noted σ Response) : Prop :=
  noted.Within l r fun response => l.Lets response.headers

/-- A program within a licence takes steps within it, wherever it stands. -/
theorem Program.Within.noted {code : Program σ} (h : code.Within l) {rest : Noted σ Response} (hrest : rest.Answers l r)
    (n : Nat) : (code.noted n rest).Answers l r := by
  induction h with
  | answer hresponse => exact within_pure hresponse
  | fail failure => exact within_throw failure
  | look _ ih => exact (within_read (fun _ => rfl) fun _ => rfl).bind fun e _ => ih e
  | ahead _ ih => exact ih n
  | touch hf _ ih => exact (within_touch hf).bind fun s _ => ih s
  | authenticate a _ ih => exact (within_context fun _ => ⟨some a⟩).bind fun _ _ => ih
  | clear _ ih => exact (within_context fun _ => .empty).bind fun _ _ => ih
  | save hs _ ih => exact (within_saveContext hs).bind fun saved _ => ih saved
  | rotate hs _ ih => exact (within_rotate hs).bind fun rotated _ => ih rotated
  | bind id hb _ ih => exact (within_bind hb id).bind fun _ _ => ih
  | queue hq _ ih => exact (within_queue hq).bind fun _ _ => ih
  | mark name _ ih =>
    exact (within_read (fun _ => rfl) fun _ => rfl).bind fun e _ => (within_mark name).bind fun _ _ => ih _
  | pass _ ih => exact hrest.outcome.bind ih

theorem Program.Within.handleNoted {code : Program σ} (h : code.Within l) : code.handleNoted.Answers l r :=
  h.noted (within_throw (.handler "no handler")) 0

/-- A login that succeeds renews the session and saves. -/
theorem FormLogin.within_succeedNoted (f : FormLogin) (a : Authentication) (hs : l.sessions) :
    (f.succeedNoted a : Noted σ Response).Answers l r := by
  refine (within_rotate hs).bind fun rotated _ => ?_
  refine (within_resume_any _).discard.bind fun _ _ => ?_
  refine (within_context fun _ => ⟨some a⟩).bind fun _ _ => ?_
  refine (within_saveContext hs).bind fun saved _ => ?_
  refine (within_resume_any _).discard.bind fun _ _ => ?_
  exact within_pure (Licence.lets_redirect f.successUrl)

namespace Stage

variable {rest : Noted σ Response} (hrest : rest.Answers l r)
include hrest

theorem within_followNoted (source : Cors.Source) (reject : RejectPolicy) :
    (followNoted (Cors.decide source r) reject rest).Answers l r := by
  rcases hdecision : Cors.decide source r with _ | _ | ⟨headers, _ | _⟩ | ⟨reason, _ | _⟩
  case allow.false =>
    exact Noted.Within.bind hrest fun response hresponse => within_pure (Licence.lets_merged hdecision hresponse)
  case allow.true => exact within_pure (.inr (Licence.getAll_decision hdecision))
  case deny.false =>
    cases reject with
    | passThrough => exact hrest
    | forbid => exact within_pure (Licence.lets_json _ _)
  case deny.true => exact within_pure (Licence.lets_json _ _)
  all_goals exact hrest

theorem within_onceNoted (mode : SaveMode) {stage : Noted σ Response} (h : stage.Answers l r) :
    (onceNoted mode rest stage).Answers l r := by
  refine (within_read (fun _ => rfl) fun _ => rfl).bind fun e _ => ?_
  have hinner : (if e.isMarked contextMark = true then rest else do
      step (Flow.update (·.mark contextMark))
      stage).Answers l r := by
    split
    · exact hrest
    · exact (within_mark contextMark).bind fun _ _ => h
  refine hinner.outcome.bind fun result hresult => ?_
  have hleave : (take (pure ()) fun _ _ => .leave mode (e.isMarked contextMark) : Noted σ Unit).Within l r
      fun _ => True := by
    intro p hp
    exact Noted.goesOn_take (.still rfl rfl rfl rfl rfl) hp fun _ _ => trivial
  exact hleave.bind fun _ _ => within_resume hresult

omit hrest in
/-- What becomes of the context is settled; of the outcome it makes nothing but an error. -/
theorem within_settle {result : Except Failure Response}
    (hresult : ∀ response, result = .ok response → l.Lets response.headers) (saved : Except RepositoryError Unit) :
    (take (settle result saved) fun _ _ => .settle).Answers l r := by
  intro p hp
  refine Noted.goesOn_take ?_ ?_ fun response h => ?_
  · rw [settle_exchange]
    exact .still rfl rfl rfl rfl rfl
  · rw [settle_exchange]
    exact ⟨hp.request, hp.hook, hp.repository⟩
  · rcases saved with e | u <;> rcases result with failure | answer
    · cases h
    · cases h
    · cases h
    · exact hresult response h

theorem within_autoSaveNoted {repository : Repository σ} (hr : l.repositories repository) (hs : l.sessions) :
    (autoSaveNoted repository rest).Answers l r := by
  refine (within_load hr .onExit).bind fun _ _ => ?_
  refine hrest.outcome.bind fun result hresult => ?_
  intro p hp
  refine goesOn_look ?_
  exact (goesOn_save hr hs hp (fun _ _ => rfl) fun _ _ => rfl).bind fun saved _ => within_settle hresult saved

theorem within_explicitSaveNoted {repository : Repository σ} (hr : l.repositories repository) :
    (explicitSaveNoted repository rest).Answers l r := by
  refine (within_load hr .onRequest).bind fun _ _ => ?_
  refine (within_update (f := fun e => { e with hook := some repository }) (fun _ => rfl) (fun _ => rfl) ?_
    (fun _ _ => rfl) fun _ _ => rfl).bind fun _ _ => ?_
  · rintro e _ ⟨⟩
    exact .inr hr
  refine hrest.outcome.bind fun result hresult => ?_
  refine (within_update (f := fun e =>
      { e with hook := none, state := if e.state = .loaded then .discarded else e.state }) (fun _ => rfl)
    (fun _ => rfl) ?_ (fun _ _ => rfl) fun _ _ => rfl).bind fun _ _ => within_resume hresult
  rintro e _ ⟨⟩

/-- A stage within a licence takes steps within it, unless it accepts a form without being let renew sessions. -/
theorem Within.noted [Clocked σ] {stage : Stage σ} (h : stage.Within l) (hlogin : l.sessions ∨ stage.admits r = false)
    (n : Nat) : (stage.noted n rest).Answers l r := by
  induction h with
  | tracing => exact hrest
  | metrics =>
    refine (within_read (fun _ => rfl) fun _ => rfl).bind fun start _ => ?_
    refine hrest.outcome.bind fun result hresult => ?_
    refine (within_read (fun _ => rfl) fun _ => rfl).bind fun stop _ => ?_
    exact (within_read (fun _ => rfl) fun _ => rfl).bind fun _ _ => within_resume hresult
  | cors source reject =>
    refine within_request.bind fun request hrequest => ?_
    rw [hrequest]
    refine (within_update (f := fun e => { e with decision := some (Cors.decide source r) }) (fun _ => rfl)
      (fun _ => rfl) (fun _ _ h => .inl h) (fun _ _ => rfl) fun _ _ => rfl).bind fun _ _ => ?_
    exact within_followNoted hrest source reject
  | autoSave hr hs => exact within_onceNoted hrest .onExit (within_autoSaveNoted hrest hr hs)
  | explicitSave hr => exact within_onceNoted hrest .onRequest (within_explicitSaveNoted hrest hr)
  | formLogin settings users =>
    refine within_request.bind fun request hrequest => ?_
    rw [hrequest]
    cases hasks : settings.asksPage r with
    | true => exact within_pure (Licence.lets_json _ _)
    | false =>
      cases hsubmits : settings.isSubmission r with
      | false => exact hrest
      | true =>
        cases hverdict : settings.verdict users r with
        | none => exact within_pure (Licence.lets_redirect settings.failureUrl)
        | some a =>
          have hadmits : (Stage.formLogin settings users : Stage σ).admits r = true := by
            simp [admits, hasks, hsubmits, hverdict]
          have hs : l.sessions := hlogin.resolve_right (by simp [hadmits])
          exact settings.within_succeedNoted a hs
  | httpBasic realm users =>
    refine within_request.bind fun request _ => ?_
    rcases HttpBasic.verdict users request with _ | _ | a
    · exact hrest
    · exact within_pure (Licence.lets_challenge realm)
    · exact (within_context fun _ => ⟨some a⟩).bind fun _ _ => hrest
  | anonymous =>
    have hname : (step (Flow.update fun e => if e.context.isEmpty then e.authenticate .anonymous else e) :
        Noted σ Unit).Within l r fun _ => True := by
      refine within_update (fun e => ?_) (fun e => ?_) (fun e _ h => .inl ?_) (fun _ _ => rfl) fun _ _ => rfl
      · split <;> rfl
      · split <;> rfl
      · split at h
        · exact h
        · exact h
    exact hname.bind fun _ _ => hrest
  | authorization rules entry =>
    refine (within_read (fun _ => rfl) fun _ => rfl).bind fun e _ => ?_
    split
    · exact hrest
    split
    · exact within_pure (Licence.lets_json _ _)
    · exact within_pure (Licence.lets_entry entry)
  | custom name hcode => exact hcode.noted hrest n
  | entered hnote _ ih => exact (within_touch hnote).bind fun _ _ => ih hlogin

end Stage

/-- So does a pipeline of such stages. -/
theorem Pipeline.within_noted [Clocked σ] {handler : Noted σ Response} (hhandler : handler.Answers l r)
    {stages : List (Stage σ)} (hstages : ∀ stage ∈ stages, stage.Within l)
    (hlogin : l.sessions ∨ ∀ stage ∈ stages, stage.admits r = false) : (Pipeline.noted handler stages).Answers l r := by
  induction stages with
  | nil => exact hhandler
  | cons stage rest ih =>
    rw [List.forall_mem_cons] at hstages
    have hrest := ih hstages.2 (hlogin.imp_right fun h other hother => h other (List.mem_cons_of_mem _ hother))
    exact hstages.1.noted hrest (hlogin.imp_right fun h => h stage List.mem_cons_self) rest.length

/-- A run of a handler behind stages within a licence: its steps, and what it answers if it answers. -/
theorem Pipeline.exists_trace [Clocked σ] {handler : Program σ} (hhandler : handler.Within l) {stages : List (Stage σ)}
    (hstages : ∀ stage ∈ stages, stage.Within l) {p : Passage σ} (hp : p.Held l r)
    (hlogin : l.sessions ∨ ∀ stage ∈ stages, stage.admits r = false) :
    ∃ outcome q journal, Pipeline.noted handler.handleNoted stages (p, []) = (outcome, q, journal) ∧
      Pipeline.run handler.handle stages p = (outcome, q) ∧ l.Trace p journal q ∧
      ∀ response, outcome = .ok response → l.Lets response.headers := by
  have htells := Pipeline.tells_noted handler.tells_handleNoted stages p []
  obtain ⟨journal, hjournal, htrace, -, hanswer⟩ := Pipeline.within_noted hhandler.handleNoted hstages hlogin p hp []
  rw [List.nil_append] at hjournal
  refine ⟨_, _, _, rfl, htells.symm, hjournal ▸ htrace, hanswer⟩

/-- An exchange about whose context nothing has been done takes one of the courses. -/
theorem Pipeline.course_of_noted [Clocked σ] {handler : Program σ} {stages : List (Stage σ)} {p q : Passage σ}
    (hmarked : p.exchange.isMarked Stage.contextMark = false) (hp : p.exchange.Untouched)
    {outcome : Except Failure Response} {journal : Journal σ}
    (hnoted : Pipeline.noted handler.handleNoted stages (p, []) = (outcome, q, journal)) :
    Course journal q.exchange := by
  obtain ⟨journal', hjournal, hcourse⟩ :=
    (Pipeline.orderly_noted handler.orderly_handleNoted stages).course p hmarked hp []
  rw [hnoted] at hjournal hcourse
  have heq : journal = journal' := hjournal
  rw [heq]
  exact hcourse

end Portcullis
