import Portcullis.Proofs.Pipeline.Effects
import Portcullis.Proofs.Pipeline.Login

/-!
# Journals

A run of a pipeline of which a journal is kept: each step is entered with what it does about the security context, and
with the exchange as it leaves it. The stages whose steps are noted take the steps of the stages themselves, so
forgetting the journal gives the run (`Stage.tells_noted`, `Pipeline.tells_noted`).
-/

namespace Portcullis

/-- When a stage for the security context saves. -/
inductive SaveMode
  /-- On its exit, in any case. -/
  | onExit
  /-- Where somebody asks for it. -/
  | onRequest
  deriving DecidableEq, Repr

/-- What a step does about the security context. -/
inductive Deed
  /-- Nothing. -/
  | step
  /-- A stage has a repository load the context. -/
  | load (mode : SaveMode) (ok : Bool)
  /-- A repository has to save the context, on the exit of a stage or through the hook. -/
  | save (mode : SaveMode) (ok : Bool)
  /-- A stage settles what becomes of the context. -/
  | settle
  /-- A stage is left; it may have passed the request on and nothing else. -/
  | leave (mode : SaveMode) (passed : Bool)
  deriving DecidableEq, Repr

namespace Deed

/-- Is a context loaded, or meant to be? -/
def isLoad : Deed → Bool
  | .load .. => true
  | _ => false

/-- Is a context saved, or meant to be? -/
def isSave : Deed → Bool
  | .save .. => true
  | _ => false

section

variable (mode : SaveMode) (b : Bool)

@[simp] theorem isLoad_step : step.isLoad = false := rfl
@[simp] theorem isLoad_load : (load mode b).isLoad = true := rfl
@[simp] theorem isLoad_save : (save mode b).isLoad = false := rfl
@[simp] theorem isLoad_settle : settle.isLoad = false := rfl
@[simp] theorem isLoad_leave : (leave mode b).isLoad = false := rfl

@[simp] theorem isSave_step : step.isSave = false := rfl
@[simp] theorem isSave_load : (load mode b).isSave = false := rfl
@[simp] theorem isSave_save : (save mode b).isSave = true := rfl
@[simp] theorem isSave_settle : settle.isSave = false := rfl
@[simp] theorem isSave_leave : (leave mode b).isSave = false := rfl

end

end Deed

/-- An entry of a journal: a deed, and the exchange after it. -/
structure Moment (σ : Type) where
  deed : Deed
  exchange : Exchange σ

/-- What has been done, in order. -/
abbrev Journal (σ : Type) := List (Moment σ)

/-- A step of a stage or a handler, with a journal. -/
abbrev Noted (σ α : Type) := ExceptT Failure (StateM (Passage σ × Journal σ)) α

variable {σ α β : Type}

namespace Noted

/-- Takes a step, and notes what it does. -/
def take (f : Flow σ α) (deed : Passage σ → Except Failure α → Deed) : Noted σ α :=
  fun (p, journal) => ((f p).1, ((f p).2, journal ++ [⟨deed p (f p).1, (f p).2.exchange⟩]))

/-- Takes a step that does nothing about the context. -/
def step (f : Flow σ α) : Noted σ α :=
  take f fun _ _ => .step

/-- `Flow.outcome`, with a journal. -/
def outcome (f : Noted σ α) : Noted σ (Except Failure α) :=
  fun s => (.ok (f s).1, (f s).2)

/-- `Flow.resume`, with a journal. -/
def resume (result : Except Failure α) : Noted σ α :=
  fun s => (result, s)

/-- Has the context been saved? -/
def isSaved : Except Failure (Except RepositoryError α) → Bool
  | .ok (.ok _) => true
  | _ => false

/-- Saves through the hook; where none is installed no repository hears of it. -/
def saveContext : Noted σ (Except RepositoryError Bool) :=
  take Flow.saveContext fun p result => if p.exchange.hook.isSome then .save .onRequest (isSaved result) else .step

end Noted

open Noted (take step outcome resume)

/-- `Program.run`, with a journal. -/
def Program.noted (ahead : Nat) (rest : Noted σ Response) : Program σ → Noted σ Response
  | .answer response => pure response
  | .fail failure => throw failure
  | .look next => do (next (← step Flow.exchange)).noted ahead rest
  | .ahead next => (next ahead).noted ahead rest
  | .touch f next => do (next (← step (Flow.touch fun s => (f s, f s)))).noted ahead rest
  | .authenticate a next => do
    step (Flow.update (·.authenticate a))
    next.noted ahead rest
  | .clear next => do
    step (Flow.update Exchange.clear)
    next.noted ahead rest
  | .save next => do (next (← Noted.saveContext)).noted ahead rest
  | .rotate next => do (next (← step Flow.rotateSession)).noted ahead rest
  | .bind id next => do
    step (Flow.update (·.bindSession id))
    next.noted ahead rest
  | .queue name value next => do
    step (Flow.update (·.queue name value))
    next.noted ahead rest
  | .mark name next => do
    let e ← step Flow.exchange
    step (Flow.update (·.mark name))
    (next (!e.isMarked name)).noted ahead rest
  | .pass next => do (next (← outcome rest)).noted ahead rest

/-- `FormLogin.succeed`, with a journal. -/
def FormLogin.succeedNoted (f : FormLogin) (a : Authentication) : Noted σ Response := do
  discard (resume ((← step Flow.rotateSession).mapError .repository))
  step (Flow.update (·.authenticate a))
  discard (resume ((← Noted.saveContext).mapError .repository))
  return .redirect f.successUrl

namespace Stage

/-- `Stage.follow`, with a journal. -/
def followNoted (decision : Cors.Decision) (reject : RejectPolicy) (rest : Noted σ Response) : Noted σ Response :=
  match decision with
  | .notCrossOrigin | .noPolicy => rest
  | .allow headers true => pure ⟨200, headers, .null⟩
  | .deny _ true => pure invalidCors
  | .allow headers false => do return mergeHeaders (← rest) headers
  | .deny _ false =>
    match reject with
    | .passThrough => rest
    | .forbid => pure invalidCors

/-- `Stage.once`, with a journal: it also says when the stage is left. -/
def onceNoted (mode : SaveMode) (rest : Noted σ Response) (stage : Noted σ Response) : Noted σ Response := do
  let passed := (← step Flow.exchange).isMarked contextMark
  let result ← outcome (if passed then rest else do
    step (Flow.update (·.mark contextMark))
    stage)
  take (pure ()) fun _ _ => .leave mode passed
  resume result

/-- What a stage does that saves on its exit, with a journal. -/
def autoSaveNoted (repository : Repository σ) (rest : Noted σ Response) : Noted σ Response := do
  take (Flow.loadContext repository) fun _ loaded => .load .onExit loaded.isOk
  let result ← outcome rest
  let e ← step Flow.exchange
  let saved ← take (Flow.onVisit (repository.save e.context)) fun _ saved => .save .onExit (Noted.isSaved saved)
  take (settle result saved) fun _ _ => .settle

/-- What a stage does that leaves saving to others, with a journal. -/
def explicitSaveNoted (repository : Repository σ) (rest : Noted σ Response) : Noted σ Response := do
  take (Flow.loadContext repository) fun _ loaded => .load .onRequest loaded.isOk
  step (Flow.update fun e => { e with hook := some repository })
  let result ← outcome rest
  take (Flow.update fun e =>
    { e with hook := none, state := if e.state = .loaded then .discarded else e.state }) fun _ _ => .settle
  resume result

/-- `Stage.run`, with a journal. -/
def noted [Clocked σ] (ahead : Nat) (rest : Noted σ Response) : Stage σ → Noted σ Response
  | .tracing => rest
  | .metrics => do
    let start ← step Flow.now
    let result ← outcome rest
    let stop ← step Flow.now
    step (modify fun p =>
      { p with metrics := p.metrics.observe result.toOption ((stop - start) * 1000000 % UInt64.size) })
    resume result
  | .cors source reject => do
    let decision := Cors.decide source (← step Flow.request)
    step (Flow.update fun e => { e with decision := some decision })
    followNoted decision reject rest
  | .autoSave repository => onceNoted .onExit rest (autoSaveNoted repository rest)
  | .explicitSave repository => onceNoted .onRequest rest (explicitSaveNoted repository rest)
  | .formLogin settings users => do
    let r ← step Flow.request
    if settings.asksPage r then return settings.pageResponse r
    else if settings.isSubmission r then
      match settings.verdict users r with
      | none => return .redirect settings.failureUrl
      | some a => settings.succeedNoted a
    else rest
  | .httpBasic realm users => do
    match HttpBasic.verdict users (← step Flow.request) with
    | none => rest
    | some none => return HttpBasic.challenge realm
    | some (some a) => do
      step (Flow.update (·.authenticate a))
      rest
  | .anonymous => do
    step (Flow.update fun e => if e.context.isEmpty then e.authenticate .anonymous else e)
    rest
  | .authorization rules entry => do
    let e ← step Flow.exchange
    if Authorization.grants rules e.request e.context then rest
    else if e.context.isAuthenticated then return accessDenied
    else return entry.response
  | .custom _ code => code.noted ahead rest
  | .entered note inner => do
    step (Flow.touch fun s => ((), note s))
    inner.noted ahead rest

end Stage

/-- `Pipeline.run`, with a journal. -/
def Pipeline.noted [Clocked σ] (handler : Noted σ Response) : List (Stage σ) → Noted σ Response
  | [] => handler
  | stage :: rest => stage.noted rest.length (Pipeline.noted handler rest)

/-- `Program.handle`, with a journal. -/
def Program.handleNoted (code : Program σ) : Noted σ Response :=
  code.noted 0 (throw (.handler "no handler"))

/-! ## Forgetting the journal -/

/-- Apart from the journal, the noted step is the step itself. -/
def Noted.Tells (noted : Noted σ α) (f : Flow σ α) : Prop :=
  ∀ p journal, ((noted (p, journal)).1, (noted (p, journal)).2.1) = f p

namespace Noted

theorem tells_take (f : Flow σ α) (deed : Passage σ → Except Failure α → Deed) : (take f deed).Tells f :=
  fun _ _ => rfl

theorem tells_step (f : Flow σ α) : (step f).Tells f :=
  tells_take f _

theorem tells_pure (a : α) : Tells (pure a : Noted σ α) (pure a) :=
  fun _ _ => rfl

theorem tells_throw (e : Failure) : Tells (throw e : Noted σ α) (throw e) :=
  fun _ _ => rfl

theorem tells_resume (result : Except Failure α) : (resume result : Noted σ α).Tells (Flow.resume result) :=
  fun _ _ => rfl

theorem tells_saveContext : (Noted.saveContext : Noted σ _).Tells Flow.saveContext :=
  tells_take _ _

theorem Tells.outcome {noted : Noted σ α} {f : Flow σ α} (h : noted.Tells f) :
    (Noted.outcome noted).Tells (Flow.outcome f) := by
  intro p journal
  rw [Flow.outcome, ← h p journal]
  rfl

theorem Tells.bind {noted : Noted σ α} {f : Flow σ α} {next : α → Noted σ β} {g : α → Flow σ β} (h : noted.Tells f)
    (hnext : ∀ a, (next a).Tells (g a)) : (noted >>= next).Tells (f >>= g) := by
  intro p journal
  rw [Steps.bind_apply, Steps.bind_apply, ← h p journal]
  rcases noted (p, journal) with ⟨e | a, q, journal'⟩
  · rfl
  · exact hnext a q journal'

theorem Tells.discard {noted : Noted σ α} {f : Flow σ α} (h : noted.Tells f) :
    (Functor.discard noted).Tells (Functor.discard f) := by
  intro p journal
  rw [Steps.discard_apply, Steps.discard_apply, ← h p journal]

end Noted

open Noted (Tells tells_take tells_step tells_pure tells_throw tells_resume tells_saveContext)

theorem Program.tells_noted {rest : Noted σ Response} {ahead : Ahead σ} (hrest : rest.Tells ahead.run)
    (code : Program σ) : (code.noted ahead.stages rest).Tells (code.run ahead) := by
  induction code with
  | answer response => exact tells_pure _
  | fail failure => exact tells_throw _
  | look next ih => exact (tells_step _).bind ih
  | ahead next ih => exact ih _
  | touch f next ih => exact (tells_step _).bind ih
  | authenticate a next ih => exact (tells_step _).bind fun _ => ih
  | clear next ih => exact (tells_step _).bind fun _ => ih
  | save next ih => exact tells_saveContext.bind ih
  | rotate next ih => exact (tells_step _).bind ih
  | bind id next ih => exact (tells_step _).bind fun _ => ih
  | queue name value next ih => exact (tells_step _).bind fun _ => ih
  | mark name next ih => exact (tells_step _).bind fun _ => (tells_step _).bind fun _ => ih _
  | pass next ih => exact hrest.outcome.bind ih

theorem FormLogin.tells_succeedNoted (f : FormLogin) (a : Authentication) :
    (f.succeedNoted a : Noted σ Response).Tells (f.succeed a) :=
  (tells_step _).bind fun _ => (tells_resume _).discard.bind fun _ => (tells_step _).bind fun _ =>
    tells_saveContext.bind fun _ => (tells_resume _).discard.bind fun _ => tells_pure _

namespace Stage

variable {rest : Noted σ Response} {ahead : Ahead σ} (hrest : rest.Tells ahead.run)
include hrest

theorem tells_followNoted (decision : Cors.Decision) (reject : RejectPolicy) :
    (followNoted decision reject rest).Tells (follow decision reject ahead) := by
  rcases decision with _ | _ | ⟨headers, _ | _⟩ | ⟨reason, _ | _⟩
  case allow.false => exact hrest.bind fun _ => tells_pure _
  all_goals cases reject <;> first | exact hrest | exact tells_pure _

theorem tells_onceNoted (mode : SaveMode) {noted : Noted σ Response} {stage : Flow σ Response}
    (h : noted.Tells stage) : (onceNoted mode rest noted).Tells (once contextMark ahead stage) := by
  intro p journal
  have hmarked := (tells_step (Flow.update (·.mark contextMark) : Flow σ Unit)).bind fun _ => h
  simp only [onceNoted, once, Steps.bind_apply]
  cases hpassed : p.exchange.isMarked contextMark
  · have hresult := hmarked p (journal ++ [⟨.step, p.exchange⟩])
    simp only [step, take, Flow.exchange, hpassed] at hresult ⊢
    exact hresult
  · have hresult := hrest p (journal ++ [⟨.step, p.exchange⟩])
    simp only [step, take, Flow.exchange, hpassed] at hresult ⊢
    exact hresult

theorem tells_autoSaveNoted (repository : Repository σ) :
    (onceNoted .onExit rest (autoSaveNoted repository rest)).Tells (runAutoSave repository ahead) :=
  tells_onceNoted hrest .onExit <| (tells_take _ _).bind fun _ => hrest.outcome.bind fun _ =>
    (tells_step _).bind fun _ => (tells_take _ _).bind fun _ => tells_take _ _

theorem tells_explicitSaveNoted (repository : Repository σ) :
    (onceNoted .onRequest rest (explicitSaveNoted repository rest)).Tells (runExplicitSave repository ahead) :=
  tells_onceNoted hrest .onRequest <| (tells_take _ _).bind fun _ => (tells_step _).bind fun _ =>
    hrest.outcome.bind fun _ => (tells_take _ _).bind fun _ => tells_resume _

theorem tells_noted [Clocked σ] (stage : Stage σ) : (stage.noted ahead.stages rest).Tells (stage.run ahead) := by
  induction stage with
  | tracing => exact hrest
  | metrics =>
    exact (tells_step _).bind fun _ => hrest.outcome.bind fun _ => (tells_step _).bind fun _ =>
      (tells_step _).bind fun _ => tells_resume _
  | cors source reject =>
    exact (tells_step _).bind fun _ => (tells_step _).bind fun _ => tells_followNoted hrest _ _
  | autoSave repository => exact tells_autoSaveNoted hrest repository
  | explicitSave repository => exact tells_explicitSaveNoted hrest repository
  | formLogin settings users =>
    refine (tells_step _).bind fun r => ?_
    rw [FormLogin.submit_eq]
    split
    · exact tells_pure _
    split
    · cases settings.verdict users r with
      | none => exact tells_pure _
      | some a => exact settings.tells_succeedNoted a
    · exact hrest
  | httpBasic realm users =>
    intro p journal
    rw [run, HttpBasic.run_eq, noted, Steps.bind_apply]
    simp only [step, take, Flow.request]
    rcases HttpBasic.verdict users p.exchange.request with _ | _ | a
    · exact hrest _ _
    · rfl
    · exact ((tells_step (Flow.update (·.authenticate a))).bind fun _ => hrest) p _
  | anonymous => exact (tells_step _).bind fun _ => hrest
  | authorization rules entry =>
    refine (tells_step _).bind fun e => ?_
    split
    · exact hrest
    split <;> exact tells_pure _
  | custom name code => exact code.tells_noted hrest
  | entered note inner ih => exact (tells_step _).bind fun _ => ih

end Stage

theorem Pipeline.tells_noted [Clocked σ] {noted : Noted σ Response} {handler : Flow σ Response}
    (h : noted.Tells handler) (stages : List (Stage σ)) :
    (Pipeline.noted noted stages).Tells (Pipeline.run handler stages) := by
  induction stages with
  | nil => exact h
  | cons stage rest ih =>
    have hrest : (Pipeline.noted noted rest).Tells (Ahead.mk rest.length (Pipeline.run handler rest)).run := ih
    exact stage.tells_noted hrest

theorem Program.tells_handleNoted (code : Program σ) : code.handleNoted.Tells code.handle := by
  have hrest : (throw (.handler "no handler") : Noted σ Response).Tells nothingAhead.run := tells_throw _
  exact code.tells_noted hrest

end Portcullis
