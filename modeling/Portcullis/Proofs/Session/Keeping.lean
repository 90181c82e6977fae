import Portcullis.Proofs.Session.Contexts
import Portcullis.Proofs.Steps
import Portcullis.Session.Repository

/-!
# Keeping contexts in sessions

What the repository of sessions can do to a visit and to the sessions, when these are in memory.

* `Repository.load_cases`: a context that is loaded is held by the visit's session.
* `Repository.save_cases`: a context is kept in the visit's session, in one opened for it, or nowhere.
* `Repository.rotate_cases`: the visit's session is moved to an id that was to be issued, or is held no longer.
* `VisitOp.Composes.save` and `.rotate`: what holds of the single operations of a store holds of the repository's.
-/

namespace Portcullis

variable {σ α : Type}

@[simp] theorem Op.inVisit_apply (op : Op σ α) (visit : Visit) (s : σ) :
    op.inVisit (visit, s) = ((op s).1, (visit, (op s).2)) := rfl

@[simp] theorem VisitOp.visit_apply (visit : Visit) (s : σ) : VisitOp.visit (visit, s) = (.ok visit, (visit, s)) := rfl

@[simp] theorem VisitOp.bind_apply (id : SessionId) (visit : Visit) (s : σ) :
    VisitOp.bind id (visit, s) = (.ok (), (visit.bind id, s)) := rfl

/-! ## What operations are made of -/

theorem VisitOp.discard_eq {op : VisitOp σ α} : discard op = op >>= fun _ => pure () := by
  funext s
  rw [Steps.discard_apply, Steps.bind_apply]
  rcases op s with ⟨e | a, s'⟩ <;> rfl

/-- A property of operations on visits that goes from single steps to what is made of them. -/
structure VisitOp.Composes (P : ∀ {α : Type}, VisitOp σ α → Prop) : Prop where
  pure : ∀ {α : Type} (a : α), P (Pure.pure a : VisitOp σ α)
  throw : ∀ {α : Type} (e : RepositoryError), P (MonadExcept.throw e : VisitOp σ α)
  seq : ∀ {α β : Type} {op : VisitOp σ α} {next : α → VisitOp σ β}, P op → (∀ a, P (next a)) → P (op >>= next)
  visit : P (VisitOp.visit : VisitOp σ Visit)
  bind : ∀ id, P (VisitOp.bind id : VisitOp σ Unit)

namespace VisitOp.Composes

variable {P : ∀ {α : Type}, VisitOp σ α → Prop} {store : Store σ}

theorem save (h : Composes P) (allow always : Bool) {c : SecurityContext} (hcreate : P store.create.inVisit)
    (hlive : ∀ id, P (store.isLive id).inVisit) (hput : c.isPersistable = true → ∀ id, P (store.put id c).inVisit)
    (hclear : ∀ id, P (store.clear id).inVisit) : P ((Repository.inSession store allow always).save c) := by
  have hopen : P (Repository.openSession store c) := by
    refine h.seq hcreate fun id => h.seq (h.bind id) fun _ => ?_
    split
    · refine h.seq (hput ‹_› id) fun b => ?_
      split
      · exact h.pure _
      · exact h.throw _
    · exact h.pure _
  have hwithout : P (Repository.keepWithoutSession store allow always c) := by
    rw [Repository.keepWithoutSession]
    split
    · exact h.pure _
    split
    · exact h.pure _
    · exact hopen
  refine h.seq h.visit fun visit => ?_
  split
  · exact hwithout
  · refine h.seq (hlive _) fun b => ?_
    split
    · rw [Repository.keepInSession]
      split
      · rw [discard_eq]
        exact h.seq (hput ‹_› _) fun _ => h.pure _
      · exact hclear _
    · exact hwithout

theorem rotate (h : Composes P) (allow always : Bool) (hrotate : ∀ id, P (store.rotate id).inVisit) :
    P (Repository.inSession store allow always).rotate := by
  refine h.seq h.visit fun visit => ?_
  split
  · exact h.pure _
  · refine h.seq (hrotate _) fun o => ?_
    split
    · exact h.pure _
    · exact h.seq (h.bind _) fun _ => h.pure _

end VisitOp.Composes

/-! ## In memory -/

/-- The context is what a visit with this session, or with none, finds: nothing, or what the session has to offer. -/
def Sessions.Yields (s : Sessions) (session : Option SessionId) (c : SecurityContext) : Prop :=
  c = .empty ∨ ∃ id, session = some id ∧ s.Holds id c ∧ (s.Distinct → s.Offers id c)

namespace Repository

variable {store : Store σ} {view : σ → Sessions}

theorem load_cases (h : store.InMemory view) (allow always : Bool) (visit : Visit) (s : σ) :
    ∃ c t, (inSession store allow always).load visit s = (.ok c, t) ∧ (view s).Sheds (view t) ∧
      (view s).Yields visit.session c := by
  cases hid : visit.session with
  | none => exact ⟨.empty, s, by simp [inSession, hid], .refl _, .inl rfl⟩
  | some id =>
    obtain ⟨c, t, hfetch, hsheds, hheld⟩ := h.fetch_cases id s
    refine ⟨c.getD .empty, t, by simp [inSession, hid, hfetch, Except.map], hsheds, ?_⟩
    cases c with
    | none => exact .inl rfl
    | some c => exact .inr ⟨id, rfl, hheld c rfl⟩

/-! ## Saving -/

/-- How a save can end. -/
inductive Saved (visit : Visit) (s : Sessions) (c : SecurityContext) : Visit → Sessions → Prop
  /-- Nothing has been kept; where there was something to keep, the visit's session is gone. -/
  | nothing {t : Sessions} (hsheds : s.Sheds t)
    (hgone : c.isPersistable = true → ∀ id, visit.session = some id → id ∉ t.ids) : Saved visit s c visit t
  /-- The context has been kept in the visit's session. -/
  | kept {id : SessionId} {t : Sessions} (hid : visit.session = some id) (hc : c.isPersistable = true)
    (hkeeps : s.Keeps id c t) : Saved visit s c visit t
  /-- A session has been opened, and the context is kept there if it is kept at all. -/
  | opened {id : SessionId} {t u : Sessions} (hopens : s.Opens id t)
    (hkept : t.Sheds u ∨ c.isPersistable = true ∧ t.Keeps id c u)
    (hgone : ∀ i, visit.session = some i → i ≠ id → i ∉ u.ids) : Saved visit s c (visit.bind id) u

theorem Saved.of_sheds {visit visit' : Visit} {s t u : Sessions} {c : SecurityContext} (h : Saved visit t c visit' u)
    (hsheds : s.Sheds t) : Saved visit s c visit' u := by
  cases h with
  | nothing hsheds' hgone => exact .nothing (hsheds.trans hsheds') hgone
  | kept hid hc hkeeps => exact .kept hid hc (hsheds.keeps hkeeps)
  | opened hopens hkept hgone => exact .opened (hsheds.opens hopens) hkept hgone

theorem openSession_cases (h : store.InMemory view) (c : SecurityContext) (visit : Visit) (s : σ) :
    ∃ result id t, openSession store c (visit, s) = (result, (visit.bind id, t)) ∧
      ∃ u, (view s).Opens id u ∧ (u.Sheds (view t) ∨ c.isPersistable = true ∧ u.Keeps id c (view t)) := by
  obtain ⟨id, u, hcreate, hopens⟩ := h.create_cases s
  cases hc : c.isPersistable with
  | false => exact ⟨.ok (), id, u, by simp [openSession, hcreate, hc], view u, hopens, .inl (.refl _)⟩
  | true =>
    obtain ⟨b, t, hput, ⟨rfl, hkeeps⟩ | ⟨rfl, hsheds, -⟩⟩ := h.put_cases id c u
    · exact ⟨.ok (), id, t, by simp [openSession, hcreate, hc, hput], view u, hopens, .inr ⟨rfl, hkeeps⟩⟩
    · exact ⟨_, id, t, by simp [openSession, hcreate, hc, hput]; rfl, view u, hopens, .inl hsheds⟩

theorem keepWithoutSession_cases (h : store.InMemory view) (allow always : Bool) (c : SecurityContext) (visit : Visit)
    (s : σ) (hgone : ∀ id, visit.session = some id → id ∉ (view s).ids) :
    ∃ result visit' t, keepWithoutSession store allow always c (visit, s) = (result, (visit', t)) ∧
      Saved visit (view s) c visit' (view t) := by
  unfold keepWithoutSession
  split
  · exact ⟨_, visit, s, rfl, .nothing (.refl _) fun _ => hgone⟩
  split
  · exact ⟨_, visit, s, rfl, .nothing (.refl _) fun _ => hgone⟩
  obtain ⟨result, id, t, hopen, u, hopens, hkept⟩ := openSession_cases h c visit s
  refine ⟨result, visit.bind id, t, hopen, .opened hopens hkept fun i hi hne hmem => ?_⟩
  have hu : i ∈ u.ids := by
    rcases hkept with hsheds | ⟨-, hkeeps⟩
    · exact hsheds.ids hmem
    · exact hkeeps.ids hmem
  exact hgone i hi ((List.mem_cons.1 (hopens.ids hu)).resolve_left hne)

theorem save_cases (h : store.InMemory view) (allow always : Bool) (c : SecurityContext) (visit : Visit) (s : σ) :
    ∃ result visit' t, (inSession store allow always).save c (visit, s) = (result, (visit', t)) ∧
      Saved visit (view s) c visit' (view t) := by
  cases hid : visit.session with
  | none =>
    obtain ⟨result, visit', t, hkeep, hsaved⟩ :=
      keepWithoutSession_cases h allow always c visit s (by simp [hid])
    exact ⟨result, visit', t, by simp [inSession, hid, hkeep], hsaved⟩
  | some id =>
    obtain ⟨b, u, hlive, hsheds, hgone⟩ := h.isLive_cases id s
    cases b with
    | false =>
      have hgone' : ∀ i, visit.session = some i → i ∉ (view u).ids := by
        rintro i hi
        rw [hid, Option.some.injEq] at hi
        exact hi ▸ hgone rfl
      obtain ⟨result, visit', t, hkeep, hsaved⟩ :=
        keepWithoutSession_cases h allow always c visit u hgone'
      exact ⟨result, visit', t, by simp [inSession, hid, hlive, hkeep], hsaved.of_sheds hsheds⟩
    | true =>
      cases hc : c.isPersistable with
      | false =>
        obtain ⟨t, hclear, hsheds'⟩ := h.clear_cases id u
        exact ⟨.ok (), visit, t, by simp [inSession, hid, hlive, keepInSession, hc, hclear],
          .nothing (hsheds.trans hsheds') (by simp [hc])⟩
      | true =>
        obtain ⟨b, t, hput, ⟨rfl, hkeeps⟩ | ⟨rfl, hsheds', hgone⟩⟩ := h.put_cases id c u
        · exact ⟨.ok (), visit, t, by simp [inSession, hid, hlive, keepInSession, hc, hput]; rfl,
            .kept hid hc (hsheds.keeps hkeeps)⟩
        · refine ⟨.ok (), visit, t, by simp [inSession, hid, hlive, keepInSession, hc, hput]; rfl,
            .nothing (hsheds.trans hsheds') ?_⟩
          rintro - i hi
          rw [hid, Option.some.injEq] at hi
          exact hi ▸ hgone

/-! ## Rotating -/

theorem rotate_cases (h : store.InMemory view) (allow always : Bool) (visit : Visit) (s : σ) :
    ∃ b visit' t, (inSession store allow always).rotate (visit, s) = (.ok b, (visit', t)) ∧
      ((∃ id fresh, visit.session = some id ∧ visit' = visit.bind fresh ∧ (view s).Moves id fresh (view t)) ∨
        visit' = visit ∧ (view s).Sheds (view t) ∧ ∀ id, visit.session = some id → id ∉ (view t).ids) := by
  cases hid : visit.session with
  | none => exact ⟨false, visit, s, by simp [inSession, hid], .inr ⟨rfl, .refl _, by simp⟩⟩
  | some id =>
    obtain ⟨o, t, hrotate, ⟨fresh, rfl, hmoves⟩ | ⟨rfl, hsheds, hgone⟩⟩ := h.rotate_cases id s
    · exact ⟨true, visit.bind fresh, t, by simp [inSession, hid, hrotate, Except.map],
        .inl ⟨id, fresh, rfl, rfl, hmoves⟩⟩
    · exact ⟨false, visit, t, by simp [inSession, hid, hrotate],
        .inr ⟨rfl, hsheds, fun i hi => by cases hi; exact hgone⟩⟩

end Repository

end Portcullis
