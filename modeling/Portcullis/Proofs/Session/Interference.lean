import Portcullis.Proofs.Session.Event
import Portcullis.Proofs.Session.Keeping

/-!
# Saving while others are at work

Between the calls that a save makes to the session store, other requests may do what they like to it, and so end the
very session that the context is to be kept in. A store under watch (`Store.watched`) lets them, and notes down each
call with its answer. A save that opens a session says so when that session vanishes; a save into a session that is
there does not (`Repository.save_ok_without_put_iff`).
-/

namespace Portcullis

variable {σ α : Type}

/-- A store under watch. -/
structure Watch (σ : Type) where
  state : σ
  /-- What others do to the state before each call that is still to come; nothing, once the list is used up. -/
  others : List (σ → σ) := []
  /-- The calls so far, with their answers. -/
  log : List (StoreEvent × StoreAnswer) := []

namespace Watch

/-- The state in which the next call finds the store. -/
def turn (w : Watch σ) : σ :=
  w.others.headD id w.state

/-- Others have their turn; then the call is made and noted down. -/
def call (event : StoreEvent) (answer : α → StoreAnswer) (op : Op σ α) : Op (Watch σ) α :=
  fun w => ((op w.turn).1,
    ⟨(op w.turn).2, w.others.tail, w.log ++ [(event, (TimedStore.settle answer (op w.turn)).1)]⟩)

end Watch

/-- The store, under watch. -/
def Store.watched (store : Store σ) : Store (Watch σ) where
  create := Watch.call .create (.id ∘ some) store.create
  isLive id := Watch.call (.isLive id) .flag (store.isLive id)
  fetch id := Watch.call (.fetch id) .context (store.fetch id)
  put id context := Watch.call (.put id context) .flag (store.put id context)
  clear id := Watch.call (.clear id) (fun _ => .done) (store.clear id)
  invalidate id := Watch.call (.invalidate id) (fun _ => .done) (store.invalidate id)
  rotate id := Watch.call (.rotate id) .id (store.rotate id)

/-! ## What operations leave in the log -/

/-- Whatever others do, the calls that the operation makes and the result it comes to are as `post` says. -/
def VisitOp.Logs (op : VisitOp (Watch σ) α) (visit : Visit)
    (post : List (StoreEvent × StoreAnswer) → Except RepositoryError α → Prop) : Prop :=
  ∀ w, ∃ calls, (op (visit, w)).2.2.log = w.log ++ calls ∧ post calls (op (visit, w)).1

namespace VisitOp

variable {visit : Visit} {post post' : List (StoreEvent × StoreAnswer) → Except RepositoryError α → Prop}

theorem Logs.mono {op : VisitOp (Watch σ) α} (h : op.Logs visit post) (hpost : ∀ calls r, post calls r → post' calls r) :
    op.Logs visit post' := by
  intro w
  obtain ⟨calls, hlog, hcalls⟩ := h w
  exact ⟨calls, hlog, hpost _ _ hcalls⟩

theorem logs_pure {a : α} (h : post [] (.ok a)) : (pure a : VisitOp (Watch σ) α).Logs visit post :=
  fun _ => ⟨[], by simp, h⟩

theorem logs_throw {e : RepositoryError} (h : post [] (.error e)) :
    (throw e : VisitOp (Watch σ) α).Logs visit post :=
  fun _ => ⟨[], by simp, h⟩

theorem logs_visit {next : Visit → VisitOp (Watch σ) α} (h : (next visit).Logs visit post) :
    (VisitOp.visit >>= next).Logs visit post := by
  intro w
  rw [Steps.bind_apply]
  exact h w

theorem logs_bind {id : SessionId} {next : Unit → VisitOp (Watch σ) α} (h : (next ()).Logs (visit.bind id) post) :
    (VisitOp.bind id >>= next).Logs visit post := by
  intro w
  rw [Steps.bind_apply]
  exact h w

/-- A call that is answered is the first of the calls; one that fails is the only one. -/
theorem logs_call {β : Type} {event : StoreEvent} {answer : β → StoreAnswer} {op : Op σ β}
    {next : β → VisitOp (Watch σ) α} (hnext : ∀ b, (next b).Logs visit fun calls r => post ((event, answer b) :: calls) r)
    (hfail : ∀ e, post [(event, .failed e)] (.error e)) :
    ((Watch.call event answer op).inVisit >>= next).Logs visit post := by
  intro w
  simp only [Steps.bind_apply, Op.inVisit_apply, Watch.call]
  rcases op w.turn with ⟨e | b, s⟩
  · exact ⟨_, rfl, hfail e⟩
  · obtain ⟨calls, hlog, hcalls⟩ := hnext b ⟨s, w.others.tail, w.log ++ [(event, answer b)]⟩
    exact ⟨_, hlog.trans (List.append_assoc _ _ _), hcalls⟩

end VisitOp

/-! ## Saving -/

namespace Repository

variable {store : Store σ} {always : Bool} {c : SecurityContext} {visit : Visit}

/-- Among the calls there is one that has put the context into a session. -/
def Stored (c : SecurityContext) (calls : List (StoreEvent × StoreAnswer)) : Prop :=
  ∃ id, (.put id c, .flag true) ∈ calls

/-- A save that opens a session has stored the context there if it says so. -/
theorem openSession_logs (hc : c.isPersistable = true) :
    (openSession store.watched c).Logs visit fun calls r => r = .ok () → Stored c calls := by
  refine VisitOp.logs_call (fun id => VisitOp.logs_bind ?_) nofun
  rw [if_pos hc]
  refine VisitOp.logs_call (fun b => ?_) nofun
  cases b with
  | false => exact VisitOp.logs_throw nofun
  | true => exact VisitOp.logs_pure fun _ => ⟨id, by simp⟩

theorem keepWithoutSession_logs (hc : c.isPersistable = true) :
    (keepWithoutSession store.watched true always c).Logs visit fun calls r => r = .ok () → Stored c calls := by
  rw [keepWithoutSession, hc]
  exact openSession_logs hc

/-- Where sessions may be opened, a save reports success without having stored the context in one case only: the
visit's session is there when the save looks for it, and gone when the context is put into it. -/
theorem save_ok_without_put_iff (store : Store σ) (always : Bool) (hc : c.isPersistable = true) (visit : Visit) :
    ((inSession store.watched true always).save c).Logs visit fun calls r => (r = .ok () ∧ ¬ Stored c calls ↔
      ∃ id, visit.session = some id ∧ calls = [(.isLive id, .flag true), (.put id c, .flag false)]) := by
  refine VisitOp.logs_visit ?_
  cases hsession : visit.session with
  | none =>
    refine (keepWithoutSession_logs hc).mono fun calls r hstored => ?_
    exact iff_of_false (fun h => h.2 (hstored h.1)) (by simp)
  | some id =>
    refine VisitOp.logs_call (fun live => ?_) fun e => by simp
    cases live with
    | false =>
      refine (keepWithoutSession_logs hc).mono fun calls r hstored => ?_
      refine iff_of_false (fun h => h.2 ?_) (by simp)
      obtain ⟨i, hi⟩ := hstored h.1
      exact ⟨i, List.mem_cons_of_mem _ hi⟩
    | true =>
      simp only [if_true, keepInSession, hc, VisitOp.discard_eq]
      refine VisitOp.logs_call (fun b => VisitOp.logs_pure ?_) fun e => by simp
      cases b <;> simp [Stored]

/-- The visit of somebody who has a session. -/
def visitOfAnn : Visit where
  request := { method := .get, path := "/" }
  cookieName := "SESSION"
  session := some (Ulid.ofNat 0)

/-- Somebody ends that session after it has been looked for. -/
def endedMidway : Watch Sessions where
  state := (Sessions.create { supply := Ulid.ofNat }).2
  others := [id, (·.erase (Ulid.ofNat 0))]

/-- What is to be kept. -/
def contextOfAnn : SecurityContext :=
  ⟨some ⟨"ann", [], true, .formLogin⟩⟩

/-- The save of that context while the session is being ended. -/
def saveOfAnn : Except RepositoryError Unit × Visit × Watch Sessions :=
  (inSession Sessions.store.watched true false).save contextOfAnn (visitOfAnn, endedMidway)

theorem saveOfAnn_eq : saveOfAnn.1 = .ok () ∧ saveOfAnn.2.2.log =
    [(.isLive (Ulid.ofNat 0), .flag true), (.put (Ulid.ofNat 0) contextOfAnn, .flag false)] :=
  ⟨rfl, rfl⟩

/-- The save reports success, and the context is nowhere. -/
theorem save_lost_silently :
    contextOfAnn.isPersistable = true ∧ saveOfAnn.1 = .ok () ∧ ¬ Stored contextOfAnn saveOfAnn.2.2.log := by
  refine ⟨rfl, saveOfAnn_eq.1, ?_⟩
  rw [saveOfAnn_eq.2]
  simp [Stored]

/-- It is the case in which that can happen. -/
theorem save_ok_without_put_of_ended : contextOfAnn.isPersistable = true ∧ saveOfAnn.1 = .ok () ∧
    ∃ calls, saveOfAnn.2.2.log = calls ∧ ¬ Stored contextOfAnn calls := by
  obtain ⟨calls, hlog, hcalls⟩ :=
    save_ok_without_put_iff Sessions.store false (rfl : contextOfAnn.isPersistable = true) visitOfAnn endedMidway
  have hlost := hcalls.2 ⟨_, rfl, hlog.symm.trans saveOfAnn_eq.2⟩
  exact ⟨rfl, hlost.1, calls, hlog, hlost.2⟩

end Repository

end Portcullis
