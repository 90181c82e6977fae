import Portcullis.Proofs.Session.Keeping
import Portcullis.Proofs.Session.Renewal
import Portcullis.Proofs.Session.Tidy

/-!
# States that are alike

Two states are alike if their sessions are sound and the same once these are tidy, and everything else is the same
(`Akin`). What a repository of sessions does, it does alike in states that are alike (`Repository.save_alike`,
`rotate_alike`, `steady_load`), and to keep a context that is kept already leaves the state as it was
(`Repository.save_idle`).
-/

namespace Portcullis

variable {σ τ α β : Type} (empties : Prop) (view : σ → Sessions) (other : σ → τ)

/-- The sessions of the two states are the same once these are tidy, and so is everything else. -/
structure Akin (s t : σ) : Prop where
  sessions : (view s).tidy = (view t).tidy
  rest : other s = other t
  sound : (view s).Sound empties
  sound' : (view t).Sound empties

/-- The operation touches nothing but the sessions. -/
def Op.Spares (op : Op σ α) : Prop :=
  ∀ s, other (op s).2 = other s

/-- The operations of the store touch nothing but the sessions. -/
structure Store.Spares (store : Store σ) : Prop where
  create : store.create.Spares other
  isLive : ∀ id, (store.isLive id).Spares other
  fetch : ∀ id, (store.fetch id).Spares other
  put : ∀ id c, (store.put id c).Spares other
  clear : ∀ id, (store.clear id).Spares other
  rotate : ∀ id, (store.rotate id).Spares other

/-- In states that are alike, the operation comes to the same result and leads to states that are alike. -/
def VisitOp.Steady (op : VisitOp σ α) : Prop :=
  ∀ visit s t, Akin empties view other s t → ∃ result visit' s' t', op (visit, s) = (result, (visit', s')) ∧
    op (visit, t) = (result, (visit', t')) ∧ Akin empties view other s' t'

variable {empties : Prop} {view : σ → Sessions} {other : σ → τ}

namespace Akin

variable {s t u : σ}

theorem refl (h : (view s).Sound empties) : Akin empties view other s s :=
  ⟨rfl, rfl, h, h⟩

theorem symm (h : Akin empties view other s t) : Akin empties view other t s :=
  ⟨h.sessions.symm, h.rest.symm, h.sound', h.sound⟩

theorem trans (h : Akin empties view other s t) (h' : Akin empties view other t u) : Akin empties view other s u :=
  ⟨h.sessions.trans h'.sessions, h.rest.trans h'.rest, h.sound, h'.sound'⟩

theorem now (h : Akin empties view other s t) : (view s).now = (view t).now := by
  have hnow : (view s).tidy.now = (view t).tidy.now := congrArg Sessions.now h.sessions
  rwa [Sessions.tidy_now, Sessions.tidy_now] at hnow

theorem wait (h : Akin empties view other s t) {f : σ → σ} {ms : Nat} (hwait : ∀ s, view (f s) = (view s).wait ms)
    (hrest : ∀ s t, Akin empties view other s t → other (f s) = other (f t)) : Akin empties view other (f s) (f t) where
  sessions := by
    rw [hwait, hwait]
    exact congrArg (·.wait ms) h.sessions
  rest := hrest s t h
  sound := by rw [hwait]; exact h.sound.sheds (Sessions.sheds_wait _ ms)
  sound' := by rw [hwait]; exact h.sound'.sheds (Sessions.sheds_wait _ ms)

/-- Where no empty contexts are held, the sessions are the same as they stand. -/
theorem view_eq (h : Akin empties view other s t) (hempties : ¬ empties) : view s = view t := by
  rw [← h.sound.tidy_eq hempties, ← h.sound'.tidy_eq hempties, h.sessions]

end Akin

theorem Sessions.store_spares (other : Sessions → τ) (h : ∀ s t, other s = other t) : Sessions.store.Spares other where
  create _ := h _ _
  isLive _ _ := h _ _
  fetch _ _ := h _ _
  put _ _ _ := h _ _
  clear _ _ := h _ _
  rotate _ _ := h _ _

namespace VisitOp

theorem Steady.seq {op : VisitOp σ α} {next : α → VisitOp σ β} (h : op.Steady empties view other)
    (hnext : ∀ a, (next a).Steady empties view other) : VisitOp.Steady empties view other (op >>= next) := by
  intro visit s t hst
  obtain ⟨result, visit', s', t', hs, ht, hst'⟩ := h visit s t hst
  rw [Steps.bind_apply, Steps.bind_apply, hs, ht]
  cases result with
  | error e => exact ⟨.error e, visit', s', t', rfl, rfl, hst'⟩
  | ok a => exact hnext a visit' s' t' hst'

theorem composes_steady : VisitOp.Composes (σ := σ) fun op => op.Steady empties view other where
  pure _ visit s t h := ⟨_, visit, s, t, rfl, rfl, h⟩
  throw _ visit s t h := ⟨_, visit, s, t, rfl, rfl, h⟩
  seq := Steady.seq
  visit visit s t h := ⟨_, visit, s, t, rfl, rfl, h⟩
  bind id visit s t h := ⟨_, visit.bind id, s, t, rfl, rfl, h⟩

/-- A call is steady if what it does to the sessions can be done to tidy ones as well. -/
theorem steady_inVisit {op : Op σ α} {f : Sessions → α × Sessions} (h : op.Mirrors view f) (hf : Sessions.Tidily f)
    (hsound : ∀ s : Sessions, s.Sound empties → (f s).2.Sound empties) (hspares : op.Spares other) :
    VisitOp.Steady empties view other op.inVisit := by
  intro visit s t hst
  obtain ⟨hresult, hsessions⟩ := hf.congr hst.sessions
  refine ⟨.ok (f (view s)).1, visit, (op s).2, (op t).2, ?_, ?_, ?_, ?_, ?_, ?_⟩
  · rw [Op.inVisit_apply, (h s).1]
  · rw [Op.inVisit_apply, (h t).1, hresult]
  · rw [(h s).2, (h t).2, hsessions]
  · rw [hspares s, hspares t, hst.rest]
  · rw [(h s).2]
    exact hsound _ hst.sound
  · rw [(h t).2]
    exact hsound _ hst.sound'

end VisitOp

/-! ## The repository of sessions -/

namespace Repository

variable {store : Store σ} {allow always : Bool} {visit : Visit} {s t : σ} {c : SecurityContext}

section Steady

variable (hstore : store.Prompt view) (hspares : store.Spares other)
include hstore hspares

theorem steady_save (allow always : Bool) (c : SecurityContext) :
    ((inSession store allow always).save c).Steady empties view other :=
  VisitOp.composes_steady.save allow always
    (VisitOp.steady_inVisit hstore.create Sessions.tidily_create (fun _ h => h.create) hspares.create)
    (fun id => VisitOp.steady_inVisit (hstore.isLive id) (Sessions.tidily_touch id) (fun _ h => h.touch id)
      (hspares.isLive id))
    (fun hc id => VisitOp.steady_inVisit (hstore.put id c)
      (Sessions.tidily_put id (SecurityContext.isEmpty_of_isPersistable hc)) (fun _ h => h.put id hc)
      (hspares.put id c))
    fun id => VisitOp.steady_inVisit (hstore.clear id) (Sessions.tidily_clear id)
      (fun s h => h.sheds (s.sheds_clear id)) (hspares.clear id)

theorem steady_rotate (allow always : Bool) : (inSession store allow always).rotate.Steady empties view other :=
  VisitOp.composes_steady.rotate allow always fun id =>
    VisitOp.steady_inVisit (hstore.rotate id) (Sessions.tidily_rotate id) (fun _ h => h.rotate id) (hspares.rotate id)

/-- States that are alike have the same context for a visit; once it has been looked up, there is nothing to keep. -/
theorem steady_load (allow always : Bool) (visit : Visit) (h : Akin empties view other s t) :
    ∃ c s' t', (inSession store allow always).load visit s = (.ok c, s') ∧
      (inSession store allow always).load visit t = (.ok c, t') ∧ Akin empties view other s' t' ∧
      (view s').Idle visit.session c := by
  cases hid : visit.session with
  | none => exact ⟨.empty, s, t, by simp [inSession, hid], by simp [inSession, hid], h, rfl⟩
  | some id =>
    obtain ⟨s', hs, hs'⟩ := (hstore.fetch id).apply s
    obtain ⟨t', ht, ht'⟩ := (hstore.fetch id).apply t
    obtain ⟨hfound, hsessions⟩ := (Sessions.tidily_found id).congr h.sessions
    have hrest (u u' : σ) (hu : store.fetch id u = (.ok ((view u).fetch id).1, u')) : other u' = other u := by
      have hspared := hspares.fetch id u
      rwa [hu] at hspared
    refine ⟨((view s).fetch id).1.getD .empty, s', t', ?_, ?_, ⟨?_, ?_, ?_, ?_⟩, ?_⟩
    · simp [inSession, hid, hs, Except.map]
    · simp only at hfound
      rw [hfound]
      simp [inSession, hid, ht, Except.map]
    · rw [hs', ht']
      exact hsessions
    · rw [hrest s s' hs, hrest t t' ht, h.rest]
    · rw [hs', Sessions.fetch_snd]
      exact h.sound.touch id
    · rw [ht', Sessions.fetch_snd]
      exact h.sound'.touch id
    · rw [hs']
      exact h.sound.idle_fetch id

end Steady

/-! ### Saving and rotating never fail -/

section Prompt

variable (hstore : store.Prompt view)
include hstore

theorem openSession_ok (c : SecurityContext) (visit : Visit) (s : σ) :
    (openSession store c (visit, s)).1 = .ok () := by
  obtain ⟨t, hcreate, ht⟩ := hstore.create.apply s
  obtain ⟨u, hput, -⟩ := (hstore.put (view s).create.1 c).apply t
  have hlive : ((view t).live? (view s).create.1).isSome = true := by
    rw [ht, Sessions.create_fst, Sessions.create_snd, Sessions.live?_insert, if_pos rfl, Option.isSome_some]
    refine Sessions.isDead_of_lastUsed ?_
    obtain ⟨held, h⟩ := (view s).countCreate_eq
    rw [h]
  rw [Sessions.put_fst, hlive] at hput
  simp only [openSession, Steps.bind_apply, Op.inVisit_apply, hcreate, VisitOp.bind_apply]
  split
  · simp [hput]
  · rfl

theorem save_ok (allow always : Bool) (c : SecurityContext) (visit : Visit) (s : σ) :
    ((inSession store allow always).save c (visit, s)).1 = .ok () := by
  have hwithout (t : σ) : (keepWithoutSession store allow always c (visit, t)).1 = .ok () := by
    rw [keepWithoutSession]
    split
    · rfl
    split
    · rfl
    · exact openSession_ok hstore c visit t
  cases hid : visit.session with
  | none => simp [inSession, hid, hwithout]
  | some id =>
    obtain ⟨t, hlive, -⟩ := (hstore.isLive id).apply s
    obtain ⟨u, hput, -⟩ := (hstore.put id c).apply t
    obtain ⟨u', hclear, -⟩ := (hstore.clear id).apply t
    simp only [inSession, Steps.bind_apply, VisitOp.visit_apply, hid, Op.inVisit_apply, hlive]
    split
    · rw [keepInSession]
      split
      · simp [hput, Except.map]
      · simp [hclear]
    · exact hwithout t

theorem rotate_ok (allow always : Bool) (visit : Visit) (s : σ) :
    ∃ b, ((inSession store allow always).rotate (visit, s)).1 = .ok b := by
  cases hid : visit.session with
  | none => exact ⟨false, by simp [inSession, hid]⟩
  | some id =>
    obtain ⟨t, hrotate, -⟩ := (hstore.rotate id).apply s
    cases hfresh : ((view s).rotate id).1 with
    | none => exact ⟨false, by simp [inSession, hid, hrotate, hfresh]⟩
    | some fresh => exact ⟨true, by simp [inSession, hid, hrotate, hfresh, Except.map]⟩

/-- In states that are alike, a context is saved alike. -/
theorem save_alike (hspares : store.Spares other) (allow always : Bool) (c : SecurityContext) (visit : Visit)
    (h : Akin empties view other s t) : ∃ visit' s' t',
      (inSession store allow always).save c (visit, s) = (.ok (), (visit', s')) ∧
      (inSession store allow always).save c (visit, t) = (.ok (), (visit', t')) ∧ Akin empties view other s' t' := by
  obtain ⟨result, visit', s', t', hs, ht, h'⟩ := steady_save hstore hspares allow always c visit s t h
  have hok := save_ok hstore allow always c visit s
  rw [hs] at hok
  exact ⟨visit', s', t', hok ▸ hs, hok ▸ ht, h'⟩

/-- In states that are alike, the session gets a new id alike. -/
theorem rotate_alike (hspares : store.Spares other) (allow always : Bool) (visit : Visit)
    (h : Akin empties view other s t) : ∃ b visit' s' t',
      (inSession store allow always).rotate (visit, s) = (.ok b, (visit', s')) ∧
      (inSession store allow always).rotate (visit, t) = (.ok b, (visit', t')) ∧ Akin empties view other s' t' := by
  obtain ⟨result, visit', s', t', hs, ht, h'⟩ := steady_rotate hstore hspares allow always visit s t h
  obtain ⟨b, hok⟩ := rotate_ok hstore allow always visit s
  rw [hs] at hok
  exact ⟨b, visit', s', t', hok ▸ hs, hok ▸ ht, h'⟩

/-- To keep what is kept already leaves the state as it was, unless a session is to be opened for nothing. -/
theorem save_idle (hspares : store.Spares other) (allow : Bool) (hsound : (view s).Sound empties)
    (hidle : (view s).Idle visit.session c) :
    ∃ s', (inSession store allow false).save c (visit, s) = (.ok (), (visit, s')) ∧ Akin empties view other s s' := by
  have hwithout (t : σ) (hc : c.isPersistable = false) :
      keepWithoutSession store allow false c (visit, t) = (.ok (), (visit, t)) := by
    simp [keepWithoutSession, hc]
  cases hid : visit.session with
  | none =>
    rw [hid] at hidle
    have hc : c.isPersistable = false := hidle
    exact ⟨s, by simp [inSession, hid, hwithout s hc], .refl hsound⟩
  | some id =>
    rw [hid] at hidle
    have hd := hsound.distinct
    obtain ⟨t, hlive, ht⟩ := (hstore.isLive id).apply s
    have hst : Akin empties view other s t := by
      have hspared := hspares.isLive id s
      rw [hlive] at hspared
      refine ⟨?_, hspared.symm, hsound, ?_⟩
      · rw [ht]
        exact (hidle.touch hd).symm
      · rw [ht]
        exact hsound.touch id
    have hidle' : (view t).Idle (some id) c := hidle.of_tidy hst.sessions
    have hd' := hst.sound'.distinct
    cases hfound : ((view s).touch id).1 with
    | false =>
      have hc := hidle.not_persistable hfound
      rw [hfound] at hlive
      exact ⟨t, by simp [inSession, hid, hlive, hwithout t hc], hst⟩
    | true =>
      rw [hfound] at hlive
      cases hc : c.isPersistable with
      | true =>
        obtain ⟨u, hput, hu⟩ := (hstore.put id c).apply t
        have hspared := hspares.put id c t
        rw [hput] at hspared
        refine ⟨u, ?_, hst.trans ⟨?_, hspared.symm, hst.sound', ?_⟩⟩
        · simp [inSession, hid, hlive, keepInSession, hc, hput, Except.map]
        · rw [hu]
          exact (hidle'.put hd' hc).symm
        · rw [hu]
          exact hst.sound'.put id hc
      | false =>
        obtain ⟨u, hclear, hu⟩ := (hstore.clear id).apply t
        have hspared := hspares.clear id t
        rw [hclear] at hspared
        refine ⟨u, ?_, hst.trans ⟨?_, hspared.symm, hst.sound', ?_⟩⟩
        · simp [inSession, hid, hlive, keepInSession, hc, hclear]
        · rw [hu]
          exact (hidle'.clear hd' hc).symm
        · rw [hu]
          exact hst.sound'.sheds (Sessions.sheds_clear _ id)

end Prompt

end Repository

end Portcullis
