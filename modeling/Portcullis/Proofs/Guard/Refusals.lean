import Portcullis.Proofs.Guard.SaveModes
import Portcullis.Proofs.Pipeline.Aside
import Portcullis.Proofs.Pipeline.Logbook
import Portcullis.Proofs.Session.Refusal

/-!
# Requests that a store fails

A session store refuses some of the calls that a request makes, and the request comes to nothing. Whoever is answered by
`Guard.serve` still reaches the context that was reached before, with the session that the answer tells of
(`Guard.served_failure_keeps_context`). Whoever gets no answer from `Guard.handle` does so too, unless a login has moved
the session: then it has another id, and nobody is told (`Guard.unanswered_failure_moves_session`).

* `Passage.Spared`: what is kept up on the way to the stage for the security context, and behind it.
* `Passage.Returned`: what is so on the way back to there, in particular after a failure.
* `Plan.leads_context`: the stage for the security context; `Blueprint.leads_login`: form login and what is behind it.
-/

namespace Portcullis

variable {σ : Type}

/-! ## Passages from which nothing has been taken -/

section Notions

variable (view : σ → Sessions) (a : Arrival) (repository : Repository σ)

/-- With the session that the client is told of it reaches what it reached on its arrival. Contexts are kept in this
repository, if anywhere, and saved through this hook where somebody asks for it. -/
structure Passage.Spared (hook : Option (Repository σ)) (p : Passage σ) : Prop where
  safe : a.Safe p.exchange.toVisit (view p.backend)
  hook : p.exchange.hook = hook
  repository : p.exchange.repository = none ∨ p.exchange.repository = some repository

/-- Moreover the context, if it is going to be saved (`saves`), is still the one that has been loaded. -/
structure Passage.Unchanged (hook : Option (Repository σ)) (saves : Prop) (p : Passage σ) : Prop
    extends p.Spared view a repository hook where
  context : saves → p.exchange.context = a.context ∨
    p.exchange.context.isPersistable = false ∧ a.Lapsed (view p.backend).now

/-- What is so after a request has been to form login and behind: a repository has failed only where a session may be
moved, and then nothing has been changed. -/
structure Passage.Returned (hook : Option (Repository σ)) (saves : Prop) (outcome : Except Failure Response)
    (p : Passage σ) : Prop where
  unhooked : hook = none → p.Spared view a repository none
  failed : ∀ e, outcome = .error (.repository e) → a.moved ∧ p.Unchanged view a repository hook saves

/-- What is so after a request has been to the stage for the security context and behind. -/
def Passage.Restored (outcome : Except Failure Response) (p : Passage σ) : Prop :=
  ∀ e, outcome = .error (.repository e) → p.Spared view a repository none

/-- What is so behind form login: no repository fails there. -/
structure Passage.Unfailed (hook : Option (Repository σ)) (outcome : Except Failure Response) (p : Passage σ) :
    Prop where
  spared : p.Spared view a repository hook
  unfailed : ∀ e, outcome ≠ .error (.repository e)

/-- Saving is left to the stage for the security context, or to somebody who asks for it. -/
def Repository.Mode (hook : Option (Repository σ)) (saves : Prop) : Prop :=
  hook = .none ∨ hook = some repository ∧ ¬ saves

end Notions

variable {view : σ → Sessions} {a : Arrival} {repository : Repository σ} {hook : Option (Repository σ)} {saves : Prop}
  {p q : Passage σ} {outcome : Except Failure Response}

namespace Passage

theorem Spared.aside (h : p.Spared view a repository hook) (hq : p.Aside view a.cookieName q) :
    q.Spared view a repository hook := by
  obtain ⟨ms, hms⟩ := hq.waits
  refine ⟨?_, hq.hook.trans h.hook, by rw [hq.repository]; exact h.repository⟩
  rw [hms]
  exact h.safe.wait hq.request hq.named hq.session hq.pending ms

theorem Unchanged.aside (h : p.Unchanged view a repository hook saves) (hq : p.Aside view a.cookieName q) :
    q.Unchanged view a repository hook saves where
  toSpared := h.toSpared.aside hq
  context := by
    obtain ⟨ms, hms⟩ := hq.waits
    have hnow : (view p.backend).now ≤ (view q.backend).now := by
      rw [hms]
      exact Nat.le_add_right _ _
    intro hsaves
    rw [hq.context]
    exact (h.context hsaves).imp_right fun hlapsed => ⟨hlapsed.1, hlapsed.2.mono hnow⟩

/-- To save the context does no harm. -/
theorem Unchanged.fits (h : p.Unchanged view a repository hook True)
    (hforgotten : a.context.isPersistable = false → a.forgotten) :
    a.Fits p.exchange.context (view p.backend).now := by
  rw [Arrival.Fits]
  rcases h.context trivial with hsame | ⟨hc, hlapsed⟩
  · rw [hsame]
    cases hc : a.context.isPersistable with
    | true => exact if_pos rfl ▸ rfl
    | false => exact .inr (.inl (hforgotten hc))
  · rw [hc, if_neg Bool.false_ne_true]
    exact hlapsed

theorem Returned.aside {outcome' : Except Failure Response} (h : p.Returned view a repository hook saves outcome)
    (hq : p.Aside view a.cookieName q) (hown : ∀ e, outcome' = .error (.repository e) → outcome' = outcome) :
    q.Returned view a repository hook saves outcome' where
  unhooked hhook := (h.unhooked hhook).aside hq
  failed e he := by
    obtain ⟨hmoved, hunchanged⟩ := h.failed e ((hown e he).symm.trans he)
    exact ⟨hmoved, hunchanged.aside hq⟩

/-- Where no repository has failed, there is nothing to be seen to but what the stage for the security context may
save. -/
theorem Unfailed.returned (h : p.Unfailed view a repository hook outcome) (saves : Prop) :
    p.Returned view a repository hook saves outcome where
  unhooked hhook := hhook ▸ h.spared
  failed e he := absurd he (h.unfailed e)

theorem calm_restored : Calm view a.cookieName (Spared view a repository none) (Restored view a repository) where
  aside h hq := h.aside hq
  turn _ hunfailed e he := absurd he (hunfailed e)
  back h hq hown e he := (h e ((hown e he).symm.trans he)).aside hq
  again h := h _ rfl

theorem calm_returned :
    Calm view a.cookieName (Unchanged view a repository hook saves) (Returned view a repository hook saves) where
  aside h hq := h.aside hq
  turn h hunfailed := Unfailed.returned ⟨h.toSpared, hunfailed⟩ saves
  back h hq hown := h.aside hq hown
  again h := (h.failed _ rfl).2

theorem calm_unfailed : Calm view a.cookieName (Spared view a repository hook) (Unfailed view a repository hook) where
  aside h hq := h.aside hq
  turn h hunfailed := ⟨h, hunfailed⟩
  back h hq hown := ⟨h.spared.aside hq, fun e he => h.unfailed e ((hown e he).symm.trans he)⟩
  again h := h.spared

end Passage

/-! ## Loading, logging in and saving -/

section Saving

variable {store : Store σ} {allow always : Bool} (hstore : store.MayRefuse view)
include hstore

namespace Passage

theorem Spared.loadContext (h : p.Spared view a (.inSession store allow always) none) :
    (∃ q, Flow.loadContext (.inSession store allow always) p = (.ok (), q) ∧
      ∀ saves, q.Unchanged view a (.inSession store allow always) none saves) ∨
    ∃ e q, Flow.loadContext (.inSession store allow always) p = (.error (.repository e), q) ∧
      q.Spared view a (.inSession store allow always) none := by
  obtain ⟨result, t, hload, hsafe, hfound⟩ := Repository.load_refusing hstore allow always h.safe
  rw [Flow.loadContext_apply, hload]
  cases result with
  | ok c => exact .inl ⟨_, rfl, fun _ => ⟨⟨hsafe, h.hook, .inr rfl⟩, fun _ => hfound c rfl⟩⟩
  | error e => exact .inr ⟨e, _, rfl, hsafe, h.hook, h.repository⟩

/-- The session is moved, or nothing is done. -/
theorem Unchanged.rotateSession (h : p.Unchanged view a (.inSession store allow always) hook saves)
    (hmoved : a.moved) :
    (∃ b q, Flow.rotateSession p = (.ok (.ok b), q) ∧ q.Spared view a (.inSession store allow always) hook) ∨
    ∃ e q, Flow.rotateSession p = (.ok (.error e), q) ∧
      q.Unchanged view a (.inSession store allow always) hook saves := by
  rw [Flow.rotateSession_apply]
  rcases h.repository with hnone | hsome
  · rw [hnone]
    exact .inl ⟨false, p, rfl, h.toSpared⟩
  · rw [hsome]
    rcases Repository.rotate_refusing hstore allow always h.safe hmoved with
      ⟨b, visit, t, hrotate, hsafe⟩ | ⟨e, t, hrotate, hview⟩
    · simp only [hrotate]
      exact .inl ⟨b, _, rfl, hsafe, h.hook, .inr hsome⟩
    · simp only [hrotate]
      refine .inr ⟨e, _, rfl, ⟨?_, h.hook, .inr hsome⟩, ?_⟩
      · show a.Safe p.exchange.toVisit (view t)
        rw [hview]
        exact h.safe
      · show saves → _ ∨ _ ∧ a.Lapsed (view t).now
        rw [hview]
        exact h.context

/-- A save that somebody asks for, where it fails, takes nothing away. -/
theorem Spared.saveContext (h : p.Spared view a (.inSession store allow always) hook)
    (hmode : (Repository.inSession store allow always).Mode hook saves) :
    ∃ result q, Flow.saveContext p = (.ok result, q) ∧
      (hook = none → (∃ b, result = .ok b) ∧ q.Spared view a (.inSession store allow always) none) ∧
      ∀ e, result = .error e → q.Spared view a (.inSession store allow always) hook ∧ ¬ saves := by
  rw [Flow.saveContext_apply, h.hook]
  rcases hmode with rfl | ⟨rfl, hsaves⟩
  · exact ⟨.ok false, p, rfl, fun _ => ⟨⟨false, rfl⟩, h⟩, nofun⟩
  · have hspares := Repository.save_safe hstore allow always h.safe p.exchange.context
    rcases hsave : (Repository.inSession store allow always).save p.exchange.context
      (p.exchange.toVisit, p.backend) with ⟨e | u, after⟩
    · rw [hsave] at hspares
      have hsafe : a.Safe after.1 (view after.2) := hspares (.inl ⟨e, rfl⟩)
      simp only [hsave]
      exact ⟨.error e, _, rfl, nofun, fun _ _ => ⟨⟨hsafe, h.hook, h.repository⟩, hsaves⟩⟩
    · simp only [hsave]
      exact ⟨.ok true, _, rfl, nofun, nofun⟩

/-- A login: where it fails, the session has been moved with its context, or nothing has been done. -/
theorem Unchanged.succeed (h : p.Unchanged view a (.inSession store allow always) hook saves)
    (hmode : (Repository.inSession store allow always).Mode hook saves) (hmoved : a.moved) (f : FormLogin)
    (auth : Authentication) : (f.succeed auth p).2.Returned view a (.inSession store allow always) hook saves
      (f.succeed auth p).1 := by
  rw [f.succeed_apply]
  rcases h.rotateSession hstore hmoved with ⟨b, q, hrotate, hspared⟩ | ⟨e, q, hrotate, hunchanged⟩
  · have hspared' : Passage.Spared view a (.inSession store allow always) hook
        { q with exchange := q.exchange.authenticate auth } :=
      ⟨hspared.safe, hspared.hook, hspared.repository⟩
    obtain ⟨result, q', hsave, hunhooked, hfailed⟩ := hspared'.saveContext hstore hmode
    simp only [hrotate, hsave]
    cases result with
    | ok b => exact ⟨fun hhook => (hunhooked hhook).2, nofun⟩
    | error e =>
      obtain ⟨hsaved, hsaves⟩ := hfailed e rfl
      exact ⟨fun hhook => (hunhooked hhook).2, fun _ _ => ⟨hmoved, hsaved, fun hs => absurd hs hsaves⟩⟩
  · rw [hrotate]
    exact ⟨fun hhook => hhook ▸ hunchanged.toSpared, fun _ _ => ⟨hmoved, hunchanged⟩⟩

end Passage

/-- Saving after the request: where the request or the save has failed, nothing has been taken away. -/
theorem Passage.Returned.settle (h : p.Returned view a (.inSession store allow always) none True outcome)
    (hforgotten : a.moved → a.context.isPersistable = false → a.forgotten) :
    ((do Stage.settle outcome (← Flow.onVisit ((Repository.inSession store allow always).save p.exchange.context)))
      p).2.Restored view a (.inSession store allow always)
      ((do Stage.settle outcome (← Flow.onVisit ((Repository.inSession store allow always).save p.exchange.context)))
        p).1 := by
  have hspared := h.unhooked rfl
  have hspares := Repository.save_safe hstore allow always hspared.safe p.exchange.context
  rw [Steps.bind_apply, Flow.onVisit_apply]
  rcases hsave : (Repository.inSession store allow always).save p.exchange.context
    (p.exchange.toVisit, p.backend) with ⟨e | u, after⟩
  · rw [hsave] at hspares
    have hsafe : a.Safe after.1 (view after.2) := hspares (.inl ⟨e, rfl⟩)
    cases outcome <;> exact fun _ _ => ⟨hsafe, hspared.hook, hspared.repository⟩
  · rw [hsave] at hspares
    cases outcome with
    | ok response => exact nofun
    | error failure =>
      intro e he
      cases he
      obtain ⟨hmoved, hunchanged⟩ := h.failed e rfl
      have hfits := hunchanged.fits (hforgotten hmoved)
      exact ⟨hspares (.inr hfits), hspared.hook, hspared.repository⟩

end Saving

/-! ## Stages -/

section Stages

open Passage

variable [Clocked σ] {store : Store σ} {allow always : Bool} {rest handler : Flow σ Response} {plan : Plan σ}

namespace Plan

omit [Clocked σ] in
/-- The context is loaded, unless the request is passed on again: then it is not loaded a second time. -/
theorem leads_once (hstore : store.MayRefuse view) {first : Passage σ → Transit σ}
    (hrest : rest.Leads (Unchanged view a (.inSession store allow always) none False)
      (Returned view a (.inSession store allow always) none False))
    (hfirst : ∀ q, (∀ saves, q.Unchanged view a (.inSession store allow always) none saves) →
      ((first q).run rest).2.Restored view a (.inSession store allow always) ((first q).run rest).1) :
    Flow.Leads (Spared view a (.inSession store allow always) none) (Restored view a (.inSession store allow always))
      fun p => (Stage.onceTransit Stage.contextMark
        (Transit.step (Flow.loadContext (.inSession store allow always)) fun _ => first) p).run rest := by
  intro p hp
  have hloading := (hp.aside (.mark p Stage.contextMark)).loadContext hstore
  beta_reduce
  rw [Stage.onceTransit]
  split
  · have hreturned := hrest p ⟨hp, False.elim⟩
    exact fun e he => (hreturned.failed e he).2.toSpared
  · rw [Transit.step]
    rcases hloading with ⟨q, hload, hq⟩ | ⟨e, q, hload, hq⟩
    · rw [hload]
      exact hfirst q hq
    · rw [hload]
      exact fun _ _ => hq

/-- The stage for the security context. -/
theorem leads_context (hstore : store.MayRefuse view) (explicit : Bool) (n : Nat)
    (hforgotten : explicit = false → a.moved → a.context.isPersistable = false → a.forgotten)
    (hrest : ∀ hook saves, (Repository.inSession store allow always).Mode hook saves →
      rest.Leads (Unchanged view a (.inSession store allow always) hook saves)
        (Returned view a (.inSession store allow always) hook saves)) :
    ((contextStage (explicit, .inSession store allow always)).run ⟨n, rest⟩).Leads
      (Spared view a (.inSession store allow always) none) (Restored view a (.inSession store allow always)) := by
  intro p hp
  rw [← Stage.run_transit]
  cases explicit with
  | false =>
    refine leads_once hstore (hrest none False (.inl rfl)) (fun q hq => ?_) p hp
    exact (hrest none True (.inl rfl) q (hq True)).settle hstore (hforgotten rfl)
  | true =>
    refine leads_once hstore (hrest none False (.inl rfl)) (fun q hq => ?_) p hp
    -- the save that somebody may ask for is taken care of by whoever asks, and the hook is taken away again
    have hreturned := hrest (some (.inSession store allow always)) False (.inr ⟨rfl, not_false⟩)
      { q with exchange := { q.exchange with hook := some (.inSession store allow always) } }
      ⟨⟨(hq False).safe, rfl, (hq False).repository⟩, False.elim⟩
    intro e he
    have hunchanged := (hreturned.failed e he).2
    exact ⟨hunchanged.safe, rfl, hunchanged.repository⟩

/-- Form login, in front of stages that no repository fails. -/
theorem leads_formLogin (hstore : store.MayRefuse view)
    (hmode : (Repository.inSession store allow always).Mode hook saves) (form : FormLogin) (users : Users) (n : Nat)
    (hmoved : ∀ auth, form.isSubmission a.request = true → form.verdict users a.request = some auth → a.moved)
    (hrest : rest.Leads (Spared view a (.inSession store allow always) hook)
      (Unfailed view a (.inSession store allow always) hook)) :
    ((Stage.formLogin form users).run ⟨n, rest⟩).Leads
      (Unchanged view a (.inSession store allow always) hook saves)
      (Returned view a (.inSession store allow always) hook saves) := by
  intro p hp
  have hanswered (response : Response) :
      p.Returned view a (.inSession store allow always) hook saves (.ok response) := by
    refine Unfailed.returned ⟨hp.toSpared, fun e he => ?_⟩ saves
    cases he
  rw [← Stage.run_transit, Stage.transit, hp.safe.request]
  split
  · exact hanswered _
  split
  · cases hverdict : form.verdict users a.request with
    | none => exact hanswered _
    | some auth => exact hp.succeed hstore hmode (hmoved auth ‹_› hverdict) form auth
  · exact (hrest p hp.toSpared).returned saves

/-- The stages behind form login change nothing but the context. -/
theorem upholds_late {entry : Int × Stage σ} (hentry : entry ∈ plan.late) :
    entry.2.Upholds (Spared view a repository hook) (Unfailed view a repository hook) := by
  simp only [late, List.mem_append, List.mem_ite_nil_right, List.mem_singleton, List.mem_map] at hentry
  rcases hentry with ⟨basic, -, rfl⟩ | ⟨-, rfl⟩ | ⟨rules, -, rfl⟩
  · intro n rest hrest p hp
    rw [Stage.run, HttpBasic.run_eq]
    rcases HttpBasic.verdict basic.2 p.exchange.request with _ | _ | auth
    · exact hrest p hp
    · exact ⟨hp, by rintro e ⟨⟩⟩
    · exact hrest _ ⟨hp.safe, hp.hook, hp.repository⟩
  · intro n rest hrest p hp
    refine hrest _ ?_
    cases hempty : p.exchange.context.isEmpty with
    | true =>
      simp only [hempty, if_true]
      exact ⟨hp.safe, hp.hook, hp.repository⟩
    | false =>
      simp only [hempty, Bool.false_eq_true, if_false]
      exact hp
  · exact Stage.StandsAside.upholds (.authorization rules.1 rules.2) calm_unfailed

omit [Clocked σ] in
theorem standsAside_outer {entry : Int × Stage σ} (hentry : entry ∈ plan.outer) (cookieName : String) :
    entry.2.StandsAside view cookieName := by
  simp only [outer, List.mem_append, List.mem_ite_nil_right, List.mem_singleton, List.mem_map] at hentry
  rcases hentry with ⟨-, rfl⟩ | ⟨-, rfl⟩ | ⟨c, -, rfl⟩
  · exact .tracing
  · exact .metrics
  · exact .cors c.1 c.2

end Plan

end Stages

/-! ## Chains -/

/-- The chain keeps contexts in the sessions of a store. -/
structure Blueprint.OverSessions (b : Blueprint σ) (shared : Shared σ) (store : Store σ) : Prop where
  enabled : b.context.disabled = false
  repository : ∃ allow always,
    b.context.repository.getD (defaultRepository b.session.policy shared.store) = .inSession store allow always

/-- The stages that the host adds stand aside, and so do its wrappers. -/
structure Blueprint.StandsAside (view : σ → Sessions) (b : Blueprint σ) : Prop where
  added : ∀ entry ∈ b.added, entry.2.StandsAside view b.session.cookieName
  wrappers : ∀ wrapper ∈ b.wrappers, ∃ note, Waits view note ∧ wrapper = .entered note

/-- The request submits the form of the chain, and logs somebody in. -/
def Blueprint.Admits (b : Blueprint σ) (shared : Shared σ) (r : Request) : Prop :=
  ∃ form users auth, b.formLogin = some form ∧ shared.users = some users ∧ form.isSubmission r = true ∧
    form.verdict users r = some auth

namespace Blueprint

open Passage

variable [Clocked σ] {b : Blueprint σ} {shared : Shared σ} {store : Store σ} {allow always : Bool} {plan : Plan σ}
  {handler : Flow σ Response}

omit [Clocked σ] in
/-- Form login works with what has been asked for and with the accounts that are shared. -/
theorem exists_formLogin (hplan : b.plan shared = .ok plan) {f : FormLogin × Users} (hf : plan.formLogin = some f) :
    b.formLogin = some f.1 ∧ shared.users = some f.2 := by
  have husers := (found_of_plan hplan).formLogin f.1 f.2 hf
  have hsome := (logins_of_plan hplan).1
  rw [hf, Option.isSome_some] at hsome
  obtain ⟨form, hform⟩ := Option.isSome_iff_exists.1 hsome.symm
  have hsame := Option.some.inj ((formLogin_of_plan hplan hform husers).symm.trans hf)
  rw [← hsame] at husers ⊢
  exact ⟨hform, husers⟩

theorem StandsAside.wrapped (hb : b.StandsAside view) {before : Passage σ → Prop}
    {done : Except Failure Response → Passage σ → Prop} (hcalm : Calm view a.cookieName before done) {stage : Stage σ}
    {ahead : Ahead σ} (h : (stage.run ahead).Leads before done) :
    ((b.wrapStage stage).run ahead).Leads before done := by
  obtain ⟨note, hnote, hwrap⟩ :=
    wrapStage_entered (P := Waits view) .id (fun _ _ hf hg => hg.comp hf) hb.wrappers
  intro p hp
  rw [hwrap]
  exact h _ (hcalm.aside hp (.touch p hnote))

/-- Stages in front of others, each of them wrapped. -/
theorem StandsAside.leads_append (hb : b.StandsAside view) {before : Passage σ → Prop}
    {done : Except Failure Response → Passage σ → Prop} (hcalm : Calm view a.cookieName before done)
    {entries tail : List (Int × Stage σ)} (hentries : ∀ entry ∈ entries, entry.2.Upholds before done)
    (htail : (Pipeline.run handler (tail.map (b.wrapStage ·.2))).Leads before done) :
    (Pipeline.run handler ((entries ++ tail).map (b.wrapStage ·.2))).Leads before done := by
  rw [List.map_append]
  refine Pipeline.leads_append (List.forall_mem_map.2 fun entry hentry n rest hrest => ?_) htail
  exact hb.wrapped hcalm (hentries entry hentry n rest hrest)

/-- Behind form login no repository fails. -/
theorem leads_back (hb : b.StandsAside view) (hadded : ∀ entry ∈ b.added, entry.2.StandsAside view a.cookieName)
    (hhandler : handler.StandsAside view a.cookieName) {back : List (Int × Stage σ)}
    (hback : ∀ entry ∈ back, entry ∈ plan.late ∨ entry ∈ b.added) (hook : Option (Repository σ)) :
    (Pipeline.run handler (back.map (b.wrapStage ·.2))).Leads (Spared view a repository hook)
      (Unfailed view a repository hook) := by
  have hupholds : ∀ entry ∈ back,
      entry.2.Upholds (Spared view a repository hook) (Unfailed view a repository hook) := by
    intro entry hentry
    rcases hback entry hentry with hlate | h
    · exact Plan.upholds_late hlate
    · exact (hadded entry h).upholds calm_unfailed
  rw [← List.append_nil back]
  exact hb.leads_append calm_unfailed hupholds (hhandler.leads calm_unfailed)

/-- Form login, if there is any, and what is behind it. -/
theorem leads_login (hb : b.StandsAside view) (hstore : store.MayRefuse view) (hplan : b.plan shared = .ok plan)
    (hmoved : b.Admits shared a.request → a.moved)
    (hmode : (Repository.inSession store allow always).Mode hook saves) {back : List (Int × Stage σ)}
    (hback : (Pipeline.run handler (back.map (b.wrapStage ·.2))).Leads
      (Spared view a (.inSession store allow always) hook) (Unfailed view a (.inSession store allow always) hook)) :
    (Pipeline.run handler ((plan.login ++ back).map (b.wrapStage ·.2))).Leads
      (Unchanged view a (.inSession store allow always) hook saves)
      (Returned view a (.inSession store allow always) hook saves) := by
  cases hf : plan.formLogin with
  | none =>
    rw [Plan.login, hf]
    exact hback.mono (fun _ h => h.toSpared) fun _ _ h => h.returned saves
  | some f =>
    rw [Plan.login, hf]
    obtain ⟨hform, husers⟩ := exists_formLogin hplan hf
    have hmoves : ∀ auth, f.1.isSubmission a.request = true → f.1.verdict f.2 a.request = some auth → a.moved :=
      fun auth hsubmits hverdict => hmoved ⟨f.1, f.2, auth, hform, husers, hsubmits, hverdict⟩
    exact hb.wrapped calm_returned (Plan.leads_formLogin hstore hmode f.1 f.2 _ hmoves hback)

/-- A request passes the chain. -/
theorem leads_chain (hb : b.StandsAside view) (hstore : store.MayRefuse view) (hover : b.OverSessions shared store)
    (hplan : b.plan shared = .ok plan) (hname : a.cookieName = b.session.cookieName)
    (hforgotten : b.context.explicitSave = false → a.moved → a.context.isPersistable = false → a.forgotten)
    (hmoved : b.Admits shared a.request → a.moved) (hhandler : handler.StandsAside view a.cookieName) :
    ∃ repository, (Pipeline.run handler ((b.sorted plan).map (b.wrapStage ·.2))).Leads
      (Spared view a repository none) (Restored view a repository) := by
  obtain ⟨allow, always, hrepository⟩ := hover.repository
  have hcontext := (found_of_plan hplan).context
  rw [hover.enabled, if_neg Bool.false_ne_true, hrepository] at hcontext
  obtain ⟨front, between, back, hsorted, hfront, hbetween, hback⟩ := plan.exists_layers hcontext b.added
  have hadded : ∀ entry ∈ b.added, entry.2.StandsAside view a.cookieName := hname ▸ hb.added
  refine ⟨.inSession store allow always, ?_⟩
  rw [sorted, hsorted]
  refine hb.leads_append calm_restored (fun entry hentry => ?_) ?_
  · rcases hfront entry hentry with houter | h
    · exact (Plan.standsAside_outer houter a.cookieName).upholds calm_restored
    · exact (hadded entry h).upholds calm_restored
  refine hb.wrapped calm_restored
    (Plan.leads_context hstore b.context.explicitSave _ hforgotten fun hook saves hmode => ?_)
  refine hb.leads_append calm_returned (fun entry hentry => ?_) ?_
  · exact (hadded entry (hbetween entry hentry).2.1).upholds calm_returned
  · exact leads_login hb hstore hplan hmoved hmode (leads_back hb hadded hhandler hback hook)

end Blueprint

/-! ## Guards -/

namespace Guard

/-- How a request arrives at a guard. A login moves the session; and where the context is saved after each request, one
that is not worth keeping may be given up by a login that comes to nothing. -/
def arrival (g : Guard σ) (view : σ → Sessions) (b : Blueprint σ) (shared : Shared σ) (r : Request) (d : Desk σ) :
    Arrival where
  sessions := view d.backend
  request := r
  presented := g.presented r
  cookieName := (g.newExchange r).cookieName
  forgotten := b.context.explicitSave = false ∧ b.Admits shared r ∧
    ((view d.backend).reach (g.presented r)).isPersistable = false
  moved := b.Admits shared r

variable [Clocked σ] {g : Guard σ} {b : Blueprint σ} {shared : Shared σ} {store : Store σ} {c : Chain σ} {r : Request}
  {d : Desk σ} {handler : Flow σ Response} {e : RepositoryError}

/-- After a request that a repository has failed. -/
theorem safe_of_failed (hbuild : b.build shared = .ok c) (hchain : g.chainFor? r.path = some c)
    (hover : b.OverSessions shared store) (hstore : store.MayRefuse view) (hb : b.StandsAside view)
    (hdistinct : (view d.backend).Distinct) (hhandler : handler.StandsAside view c.cookieName)
    (hfailed : (g.runRequest handler r d).1 = .error (.repository e)) :
    (g.arrival view b shared r d).Safe (g.runRequest handler r d).2.1.toVisit
      (view (g.runRequest handler r d).2.2.backend) := by
  obtain ⟨matcher, plan, -, hplan, rfl⟩ := Blueprint.exists_plan_sorted hbuild
  have hname : (g.arrival view b shared r d).cookieName = b.session.cookieName := by
    rw [arrival, newExchange, hchain]
    rfl
  rw [← hname] at hhandler
  obtain ⟨repository, hleads⟩ := Blueprint.leads_chain hb hstore hover hplan hname
    (fun hauto hmoved hc => ⟨hauto, hmoved, hc⟩) (fun h => h) hhandler
  have hspared : (g.enter r d).Spared view (g.arrival view b shared r d) repository none :=
    ⟨.start _ hdistinct rfl rfl rfl rfl, rfl, .inl rfl⟩
  have hrun : g.execute handler (g.enter r d) =
      Pipeline.run handler ((b.sorted plan).map (b.wrapStage ·.2)) (g.enter r d) := by
    have hpath : (g.enter r d).exchange.request.path = r.path := rfl
    simp only [execute, Steps.bind_apply, Flow.request, hpath, hchain]
  have hrestored := hleads (g.enter r d) hspared
  rw [← hrun] at hrestored
  exact (hrestored e hfailed).safe

/-- The session id that the client presents from now on: the one that the answer tells it, or else the one that it has
presented. -/
def presentedNext (g : Guard σ) (r : Request) (response : Response) : Option SessionId :=
  (response.sessionId? (g.newExchange r).cookieName).or (g.presented r)

section Failures

variable (hbuild : b.build shared = .ok c) (hchain : g.chainFor? r.path = some c)
  (hover : b.OverSessions shared store) (hstore : store.MayRefuse view) (hb : b.StandsAside view)
  (hdistinct : (view d.backend).Distinct) (hhandler : handler.StandsAside view c.cookieName)
include hbuild hchain hover hstore hb hdistinct hhandler

/-- **A failure that is answered.** Where a store refuses calls and a request fails for it, the client still reaches the
context that it reached before, with the session that the answer tells of, if it tells of one. There is nothing to be
reached any more only where a context not worth keeping was given up by a login that has come to nothing, and where
the time of the session was over. -/
theorem served_failure_keeps_context (hfailed : (g.runRequest handler r d).1 = .error (.repository e)) :
    (view (g.serve handler r d).2.backend).reach (g.presentedNext r (g.serve handler r d).1) =
        (view d.backend).reach (g.presented r) ∨
      (view (g.serve handler r d).2.backend).reach (g.presentedNext r (g.serve handler r d).1) = .empty ∧
        ((b.context.explicitSave = false ∧ b.Admits shared r ∧
            ((view d.backend).reach (g.presented r)).isPersistable = false) ∨
          (g.arrival view b shared r d).Outlived (view (g.serve handler r d).2.backend).now) := by
  have hsafe := safe_of_failed hbuild hchain hover hstore hb hdistinct hhandler hfailed
  have hserve : (g.serve handler r d).1 = (g.runRequest handler r d).2.1.finish
      ((g.runRequest handler r d).1.toOption.getD internalError) := rfl
  have hnext : g.presentedNext r (g.serve handler r d).1 = (g.runRequest handler r d).2.1.session := by
    have hplain : Headers.named "set-cookie" ("content-type", "application/json") = false := by decide +kernel
    have htold := hsafe.told.sessionId? (r := internalError)
      (by simp [internalError, Response.error, Response.json, Visit.isCookieField, hplain])
    rw [hsafe.cookieName] at htold
    rw [presentedNext, hserve, hfailed]
    exact htold
  rw [hnext]
  rcases hsafe.stands.reach with hsame | ⟨hempty, hnothing | hlost⟩
  · exact .inl hsame
  · exact .inl (hempty.trans hnothing.symm)
  · exact .inr ⟨hempty, hlost⟩

/-- **A failure without an answer.** Where a store refuses calls and a request fails for it, the client that is not
answered still reaches the context with the session that it has presented, but for the two reasons why there may be
nothing to be reached even with an answer, and for a third: a login has moved the session to an id that nobody has been
told. -/
theorem unanswered_failure_moves_session (hfailed : (g.handle handler r d).1 = .error (.repository e)) :
    (view (g.handle handler r d).2.backend).reach (g.presented r) = (view d.backend).reach (g.presented r) ∨
      (view (g.handle handler r d).2.backend).reach (g.presented r) = .empty ∧
        ((b.context.explicitSave = false ∧ b.Admits shared r ∧
            ((view d.backend).reach (g.presented r)).isPersistable = false) ∨
          (g.arrival view b shared r d).Outlived (view (g.handle handler r d).2.backend).now ∨
          b.Admits shared r ∧ ∃ id, (view (g.handle handler r d).2.backend).reach (some id) =
            (view d.backend).reach (g.presented r)) := by
  have hhandle : (g.handle handler r d).1 =
      (g.runRequest handler r d).1.map (g.runRequest handler r d).2.1.finish := rfl
  have hfailed' : (g.runRequest handler r d).1 = .error (.repository e) := by
    rw [hhandle] at hfailed
    generalize (g.runRequest handler r d).1 = outcome at hfailed
    cases outcome with
    | ok response => cases hfailed
    | error failure => exact hfailed
  have hsafe := safe_of_failed hbuild hchain hover hstore hb hdistinct hhandler hfailed'
  rcases hsafe.presented with hstands | ⟨hadmits, hsome, hempty⟩
  · rcases hstands.reach with hsame | ⟨hempty, hnothing | hgiven | hover⟩
    · exact .inl hsame
    · exact .inl (hempty.trans hnothing.symm)
    · exact .inr ⟨hempty, .inl hgiven⟩
    · exact .inr ⟨hempty, .inr (.inl hover)⟩
  · obtain ⟨id, hid⟩ := Option.isSome_iff_exists.1 hsome
    have hmoved := hsafe.stands.reach
    rw [hid] at hmoved
    rcases hmoved with hsame | ⟨-, hnothing | hgiven | hover⟩
    · exact .inr ⟨hempty, .inr (.inr ⟨hadmits, id, hsame⟩)⟩
    · exact .inl (hempty.trans hnothing.symm)
    · exact .inr ⟨hempty, .inl hgiven⟩
    · exact .inr ⟨hempty, .inr (.inl hover)⟩

end Failures

end Guard

/-! ## A login against a store that refuses -/

/-- Is it the call that puts a context into a session? -/
def StoreEvent.isPut : StoreEvent → Bool
  | .put .. => true
  | _ => false

/-- Is it the call that gives a session a new id? -/
def StoreEvent.isRotate : StoreEvent → Bool
  | .rotate _ => true
  | _ => false

/-- Is it the call that opens a session? -/
def StoreEvent.isCreate : StoreEvent → Bool
  | .create => true
  | _ => false

/-- A store that refuses some calls, and the account of `ann`. -/
def Shared.refusing (refused : StoreEvent → Bool) : Shared Sessions :=
  { Shared.ofAnn with store := Sessions.refusing refused }

/-- Form login over that store. -/
def Chain.refusing (refused : StoreEvent → Bool) : Chain Sessions :=
  { Chain.formOnly with stages := [.autoSave (.inSession (Sessions.refusing refused) true false),
      .formLogin {} ⟨[{ username := "ann", password := "secret" }]⟩, .anonymous] }

theorem Chain.build_refusing (refused : StoreEvent → Bool) :
    Blueprint.build { formLogin := some {} } (Shared.refusing refused) = .ok (Chain.refusing refused) := by
  rw [Blueprint.build_eq ⟨rfl, rfl⟩]
  rfl

theorem Blueprint.overSessions_formOnly (refused : StoreEvent → Bool) :
    ({ formLogin := some {} } : Blueprint Sessions).OverSessions (Shared.refusing refused)
      (Sessions.refusing refused) :=
  ⟨rfl, true, false, rfl⟩

theorem Blueprint.standsAside_formOnly : ({ formLogin := some {} } : Blueprint Sessions).StandsAside id :=
  ⟨nofun, nofun⟩

theorem Flow.standsAside_allRight : Flow.allRight.StandsAside id "SESSION" :=
  fun p => ⟨.refl p, fun _ => nofun⟩

/-- A handler that takes a little more than half an hour. -/
def Flow.tooLong : Flow Sessions Response :=
  fun p => (.ok ⟨200, [], .null⟩, { p with backend := p.backend.wait 1800001 })

namespace Guard

/-- A guard with that chain. -/
def refusing (refused : StoreEvent → Bool) : Guard Sessions :=
  ⟨[.refusing refused]⟩

/-- `bob` has logged in. -/
def contextOfBob : SecurityContext :=
  ⟨some ⟨"bob", [], true, .formLogin⟩⟩

/-- The session that `ann` presents holds a context. -/
def deskHolding (c : SecurityContext) : Desk Sessions where
  backend := (plantedDesk.backend.put (Ulid.ofNat 0) c).2

theorem distinct_deskHolding (c : SecurityContext) : (deskHolding c).backend.Distinct := by
  have hplanted : plantedDesk.backend.Distinct := Sessions.Distinct.create List.nodup_nil
  exact hplanted.put _ _

/-- The session is moved and the login cannot be saved; the answer tells where the session of `bob` is. -/
theorem failure_tells_session_of_bob :
    let g := refusing StoreEvent.isPut
    let d := deskHolding contextOfBob
    (g.runRequest Flow.allRight .formOfAnn d).1 = .error (.repository ⟨"store", "refused"⟩) ∧
      g.presentedNext .formOfAnn (g.serve Flow.allRight .formOfAnn d).1 = some (Ulid.ofNat 1) ∧
      (g.serve Flow.allRight .formOfAnn d).2.backend.reach (some (Ulid.ofNat 1)) = contextOfBob := by
  intro g d
  have hfailed : (g.runRequest Flow.allRight .formOfAnn d).1 = .error (.repository ⟨"store", "refused"⟩) :=
    Failure.of?_eq_some_iff.1 (by decide +kernel)
  have hnext : g.presentedNext .formOfAnn (g.serve Flow.allRight .formOfAnn d).1 = some (Ulid.ofNat 1) := by
    decide +kernel
  have hsome : (g.serve Flow.allRight .formOfAnn d).2.backend.reach (some (Ulid.ofNat 1)) ≠ .empty := by
    decide +kernel
  have hbefore : d.backend.reach (g.presented .formOfAnn) = contextOfBob := by decide +kernel
  have hkept := served_failure_keeps_context (Chain.build_refusing StoreEvent.isPut)
    (rfl : g.chainFor? Request.formOfAnn.path = _) (Blueprint.overSessions_formOnly _) (Sessions.mayRefuse_refusing _)
    Blueprint.standsAside_formOnly (distinct_deskHolding _) Flow.standsAside_allRight hfailed
  rw [hnext] at hkept
  exact ⟨hfailed, hnext, (hkept.resolve_right fun h => hsome h.1).trans hbefore⟩

/-- A request fails in a repository's name, and the client that is answered reaches another context than before. -/
def Loses (g : Guard Sessions) (handler : Flow Sessions Response) (r : Request) (d : Desk Sessions)
    (before after : SecurityContext) : Prop :=
  (∃ e, (g.runRequest handler r d).1 = .error (.repository e)) ∧ d.backend.reach (g.presented r) = before ∧
    (g.serve handler r d).2.backend.reach (g.presentedNext r (g.serve handler r d).1) = after

/-- A context may be lost in spite of the answer. The session cannot get a new id, and the context that it holds is not
worth keeping, since it names nobody but as anonymous; so it is given up. Or the session of `bob` dies while the request
is on its way, and no other can be opened. Or the handler says that a repository has failed when none has, and the login
of `ann` is saved. -/
theorem served_failure_loses_context :
    (refusing StoreEvent.isRotate).Loses Flow.allRight .formOfAnn (deskHolding ⟨some .anonymous⟩)
        ⟨some .anonymous⟩ .empty ∧
      (refusing StoreEvent.isCreate).Loses Flow.tooLong .ofAnnInSession (deskHolding contextOfBob) contextOfBob .empty ∧
      basicOnly.Loses (throw (.repository ⟨"store", "gone"⟩)) .ofAnnInSession (deskHolding contextOfBob) contextOfBob
        ⟨some ⟨"ann", [], true, .httpBasic⟩⟩ := by
  have hloses {g : Guard Sessions} {handler : Flow Sessions Response} {r : Request} {d : Desk Sessions}
      {before after : SecurityContext} {e : RepositoryError}
      (hfailed : Failure.of? (g.runRequest handler r d).1 = some (.repository e))
      (hreach : d.backend.reach (g.presented r) = before ∧
        (g.serve handler r d).2.backend.reach (g.presentedNext r (g.serve handler r d).1) = after) :
      g.Loses handler r d before after :=
    ⟨⟨e, Failure.of?_eq_some_iff.1 hfailed⟩, hreach⟩
  refine ⟨hloses (e := ⟨"store", "refused"⟩) ?_ ?_, hloses (e := ⟨"store", "refused"⟩) ?_ ?_,
    hloses (e := ⟨"store", "gone"⟩) ?_ ?_⟩
  all_goals decide +kernel

/-- The session cannot get a new id; without an answer `bob` has the one that he had. -/
theorem failure_leaves_session_of_bob :
    let g := refusing StoreEvent.isRotate
    let d := deskHolding contextOfBob
    (g.handle Flow.allRight .formOfAnn d).1 = .error (.repository ⟨"store", "refused"⟩) ∧
      (g.handle Flow.allRight .formOfAnn d).2.backend.reach (some (Ulid.ofNat 0)) = contextOfBob := by
  intro g d
  have hfailed : (g.handle Flow.allRight .formOfAnn d).1 = .error (.repository ⟨"store", "refused"⟩) :=
    Failure.of?_eq_some_iff.1 (by decide +kernel)
  have hsome : (g.handle Flow.allRight .formOfAnn d).2.backend.reach (some (Ulid.ofNat 0)) ≠ .empty := by
    decide +kernel
  have hpresented : g.presented .formOfAnn = some (Ulid.ofNat 0) := by decide +kernel
  have hbefore : d.backend.reach (some (Ulid.ofNat 0)) = contextOfBob := by decide +kernel
  have hkept := unanswered_failure_moves_session (Chain.build_refusing StoreEvent.isRotate)
    (rfl : g.chainFor? Request.formOfAnn.path = _) (Blueprint.overSessions_formOnly _) (Sessions.mayRefuse_refusing _)
    Blueprint.standsAside_formOnly (distinct_deskHolding _) Flow.standsAside_allRight hfailed
  rw [hpresented] at hkept
  exact ⟨hfailed, (hkept.resolve_right fun h => hsome h.1).trans hbefore⟩

/-- The session is moved and the login cannot be saved; without an answer nobody knows where the session of `bob` is. -/
theorem unanswered_failure_loses_session_of_bob :
    let g := refusing StoreEvent.isPut
    let d := deskHolding contextOfBob
    (g.handle Flow.allRight .formOfAnn d).1 = .error (.repository ⟨"store", "refused"⟩) ∧
      d.backend.reach (g.presented .formOfAnn) = contextOfBob ∧
      (g.handle Flow.allRight .formOfAnn d).2.backend.reach (g.presented .formOfAnn) = .empty ∧
      (g.handle Flow.allRight .formOfAnn d).2.backend.reach (some (Ulid.ofNat 1)) = contextOfBob := by
  refine ⟨Failure.of?_eq_some_iff.1 ?_, ?_, ?_, ?_⟩
  · decide +kernel
  · decide +kernel
  · decide +kernel
  · decide +kernel

end Guard

end Portcullis
