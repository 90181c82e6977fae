import Portcullis.Guard.Basic
import Portcullis.Proofs.Steps

/-!
# Effects

What the steps that work on the security context do to a passage: loading, saving through the hook, and giving the
session a new id. Each of them hands visit and backend to a repository and takes them back (`Passage.revisit`).
-/

namespace Portcullis

variable {σ : Type}

/-- The passage with visit and backend as an operation has left them. -/
def Passage.revisit (p : Passage σ) (after : Visit × σ) : Passage σ :=
  { p with exchange := { p.exchange with toVisit := after.1 }, backend := after.2 }

namespace Exchange

variable (e : Exchange σ) (name : String)

@[simp] theorem mark_toVisit : (e.mark name).toVisit = e.toVisit := by
  unfold mark
  split <;> rfl

@[simp] theorem mark_context : (e.mark name).context = e.context := by
  unfold mark
  split <;> rfl

@[simp] theorem mark_hook : (e.mark name).hook = e.hook := by
  unfold mark
  split <;> rfl

@[simp] theorem mark_repository : (e.mark name).repository = e.repository := by
  unfold mark
  split <;> rfl

end Exchange

namespace Flow

theorem orFail_apply {α : Type} (result : Except RepositoryError α) (p : Passage σ) :
    orFail result p = match result with
      | .ok a => (.ok a, p)
      | .error e => (.error (.repository e), p) := by
  cases result <;> rfl

theorem loadContext_apply (r : Repository σ) (p : Passage σ) :
    loadContext r p = match r.load p.exchange.toVisit p.backend with
      | (.ok context, s) =>
        (.ok (), { p with exchange := { p.exchange with context, state := .loaded, repository := some r }, backend := s })
      | (.error e, s) => (.error (.repository e), { p with backend := s }) := by
  simp only [loadContext, exchange, touch, orFail, resume, update, Steps.bind_apply]
  rcases r.load p.exchange.toVisit p.backend with ⟨e | context, s⟩ <;> rfl

theorem onVisit_apply {α : Type} (op : VisitOp σ α) (p : Passage σ) :
    onVisit op p = (.ok (op (p.exchange.toVisit, p.backend)).1, p.revisit (op (p.exchange.toVisit, p.backend)).2) :=
  rfl

theorem saveContext_apply (p : Passage σ) :
    saveContext p = match p.exchange.hook with
      | none => (.ok (.ok false), p)
      | some r => match r.save p.exchange.context (p.exchange.toVisit, p.backend) with
        | (.error e, after) => (.ok (.error e), p.revisit after)
        | (.ok (), after) =>
          (.ok (.ok true), { p.revisit after with exchange := { (p.revisit after).exchange with state := .saved } }) := by
  simp only [saveContext, exchange, Steps.bind_apply]
  cases p.exchange.hook with
  | none => rfl
  | some r =>
    simp only [Steps.bind_apply, onVisit_apply]
    rcases r.save p.exchange.context (p.exchange.toVisit, p.backend) with ⟨e | u, after⟩ <;> rfl

theorem rotateSession_apply (p : Passage σ) :
    rotateSession p = match p.exchange.repository with
      | none => (.ok (.ok false), p)
      | some r => (.ok (r.rotate (p.exchange.toVisit, p.backend)).1,
          p.revisit (r.rotate (p.exchange.toVisit, p.backend)).2) := by
  simp only [rotateSession, exchange, Steps.bind_apply]
  cases p.exchange.repository <;> rfl

section

variable {inv : Passage σ → Prop} {p : Passage σ} (hp : inv p)
include hp

theorem keeps_saveContext
    (hsave : ∀ r, p.exchange.hook = some r →
      inv (p.revisit (r.save p.exchange.context (p.exchange.toVisit, p.backend)).2))
    (hstate : ∀ q state, inv q → inv { q with exchange := { q.exchange with state } }) : inv (saveContext p).2 := by
  rw [saveContext_apply]
  cases hhook : p.exchange.hook with
  | none => exact hp
  | some r =>
    have hsaved := hsave r hhook
    simp only
    rcases hresult : r.save p.exchange.context (p.exchange.toVisit, p.backend) with ⟨e | u, after⟩
    · rw [hresult] at hsaved
      exact hsaved
    · rw [hresult] at hsaved
      exact hstate _ .saved hsaved

theorem keeps_rotateSession
    (hrotate : ∀ r, p.exchange.repository = some r → inv (p.revisit (r.rotate (p.exchange.toVisit, p.backend)).2)) :
    inv (rotateSession p).2 := by
  rw [rotateSession_apply]
  cases hr : p.exchange.repository with
  | none => exact hp
  | some r => exact hrotate r hr

end

end Flow

/-- A login that succeeds: where the new id is to be had, the context is changed and saved. -/
theorem FormLogin.succeed_apply (f : FormLogin) (a : Authentication) (p : Passage σ) :
    f.succeed a p = match (Flow.rotateSession p).1, (Flow.rotateSession p).2 with
      | .ok (.ok _), q =>
        let q := { q with exchange := q.exchange.authenticate a }
        match (Flow.saveContext q).1, (Flow.saveContext q).2 with
        | .ok (.ok _), q' => (.ok (.redirect f.successUrl), q')
        | .ok (.error e), q' => (.error (.repository e), q')
        | .error e, q' => (.error e, q')
      | .ok (.error e), q => (.error (.repository e), q)
      | .error e, q => (.error e, q) := by
  simp only [succeed, Steps.bind_apply, Steps.discard_apply, Flow.orFail_apply, Flow.update]
  rcases Flow.rotateSession p with ⟨e | e | b, q⟩
  · rfl
  · rfl
  · simp only [Except.map]
    rcases Flow.saveContext { q with exchange := q.exchange.authenticate a } with ⟨e | e | b, q'⟩ <;> rfl

/-- A login whose rotation fails leaves the state at which it has failed. -/
theorem FormLogin.succeed_snd (f : FormLogin) (a : Authentication) (p : Passage σ) :
    (f.succeed a p).2 = match (Flow.rotateSession p).1 with
      | .ok (.ok _) => (Flow.saveContext { (Flow.rotateSession p).2 with
          exchange := (Flow.rotateSession p).2.exchange.authenticate a }).2
      | _ => (Flow.rotateSession p).2 := by
  rw [succeed_apply]
  rcases Flow.rotateSession p with ⟨e | e | b, q⟩
  · rfl
  · rfl
  · simp only
    rcases Flow.saveContext { q with exchange := q.exchange.authenticate a } with ⟨e | e | b, q'⟩ <;> rfl

/-- A login that is answered is sent on. -/
theorem FormLogin.succeed_fst (f : FormLogin) (a : Authentication) (p : Passage σ) :
    (f.succeed a p).1 = .ok (.redirect f.successUrl) ∨ ∃ e, (f.succeed a p).1 = .error e := by
  rw [succeed_apply]
  rcases Flow.rotateSession p with ⟨e | e | b, q⟩
  · exact .inr ⟨_, rfl⟩
  · exact .inr ⟨_, rfl⟩
  · simp only
    rcases Flow.saveContext { q with exchange := q.exchange.authenticate a } with ⟨e | e | b, q'⟩
    · exact .inr ⟨_, rfl⟩
    · exact .inr ⟨_, rfl⟩
    · exact .inl rfl

/-- Saving after a request: besides what the repository does, only the state of the context changes. -/
theorem Stage.settle_snd (outcome : Except Failure Response) (op : VisitOp σ Unit) (p : Passage σ) :
    ∃ state, ((do settle outcome (← Flow.onVisit op)) p).2 =
      { p.revisit (op (p.exchange.toVisit, p.backend)).2 with
        exchange := { (p.revisit (op (p.exchange.toVisit, p.backend)).2).exchange with state := state } } := by
  rw [Steps.bind_apply, Flow.onVisit_apply]
  rcases op (p.exchange.toVisit, p.backend) with ⟨e | u, after⟩
  · cases outcome <;> exact ⟨.discarded, rfl⟩
  · cases outcome <;> exact ⟨.saved, rfl⟩

/-- Saving after a request, where saving does not fail. -/
theorem Stage.settle_apply {outcome : Except Failure Response} {op : VisitOp σ Unit} {p : Passage σ}
    {after : Visit × σ} (h : op (p.exchange.toVisit, p.backend) = (.ok (), after)) :
    (do settle outcome (← Flow.onVisit op)) p =
      (outcome, { p.revisit after with exchange := { (p.revisit after).exchange with state := .saved } }) := by
  rw [Steps.bind_apply, Flow.onVisit_apply, h]
  cases outcome <;> rfl

/-- Saving after a request leaves the outcome as it is, or fails. -/
theorem Stage.settle_fst (outcome : Except Failure Response) (op : VisitOp σ Unit) (p : Passage σ) :
    ((do settle outcome (← Flow.onVisit op)) p).1 = outcome ∨
      ∃ e, ((do settle outcome (← Flow.onVisit op)) p).1 = .error e := by
  rw [Steps.bind_apply, Flow.onVisit_apply]
  rcases op (p.exchange.toVisit, p.backend) with ⟨e | u, after⟩
  · cases outcome <;> exact .inr ⟨_, rfl⟩
  · cases outcome <;> exact .inl rfl

/-! ## A request on its arrival -/

/-- A request arrives where no session has been opened yet. -/
def Passage.arriving (r : Request) : Passage Sessions where
  exchange := .ofRequest r "SESSION"
  metrics := {}
  backend := { supply := Ulid.ofNat }

/-- What lies ahead answers like this. -/
def Ahead.answering (response : Response) : Ahead Sessions :=
  ⟨0, pure response⟩

end Portcullis
