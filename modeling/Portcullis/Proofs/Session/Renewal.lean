import Portcullis.Proofs.Session.Keeping

/-!
# Renewing a session

A visit's session gets a new id, and then a context is kept there; where there is no session, one is opened for the
context. Here no time passes from one call to the next (`Store.Prompt`), so that what is alive at first stays alive
unless it is ended.

* `Repository.rotate_renews`, `Repository.save_renewed`: the two steps.
* `Sessions.Renews`: the outcome, as far as it can be seen by calls.
-/

namespace Portcullis

namespace Sessions

variable {s t : Sessions} {presented : Option SessionId} {id fresh : SessionId} {c : SecurityContext}

/-- No session but the presented one has been used, and none has been opened or ended. -/
structure Uses (s : Sessions) (presented : Option SessionId) (t : Sessions) : Prop where
  supply : t.supply = s.supply
  issued : t.issued = s.issued
  distinct : s.Distinct → t.Distinct
  others : ∀ i, presented ≠ some i → t.live? i = s.live? i
  lives : ∀ i, (t.live? i).isSome = (s.live? i).isSome

/-- The presented session, if there was one, is gone, and there is one with an id that has just been issued; all others
are as they were. -/
structure Renews (s : Sessions) (presented : Option SessionId) (fresh : SessionId) (t : Sessions) : Prop where
  issues : s.Issues t fresh
  lives : (t.live? fresh).isSome = true
  gone : ∀ i, presented = some i → t.live? i = none
  others : ∀ i, i ≠ fresh → presented ≠ some i → t.live? i = s.live? i

theorem Uses.refl (s : Sessions) (presented : Option SessionId) : s.Uses presented s :=
  ⟨rfl, rfl, fun h => h, fun _ _ => rfl, fun _ => rfl⟩

/-- One more use of the presented session. -/
theorem Uses.touch (h : s.Uses (some id) t) : s.Uses (some id) (t.touch id).2 where
  supply := (t.touch_supply id).trans h.supply
  issued := (t.touch_issued id).trans h.issued
  distinct hd := (h.distinct hd).touch id
  others i hi := by
    rw [live?_touch, if_neg fun (he : i = id) => hi (he ▸ rfl)]
    exact h.others i hi
  lives i := by
    rw [live?_touch, ← h.lives]
    split
    · rename_i hi
      rw [hi, Option.isSome_map]
    · rfl

/-- A rotation that finds the presented session alive. -/
theorem Uses.rotate (h : s.Uses (some id) t) (hnew : id ≠ s.supply s.issued) (hlive : (t.live? id).isSome = true) :
    (t.rotate id).1 = some (s.supply s.issued) ∧ s.Renews (some id) (s.supply s.issued) (t.rotate id).2 := by
  obtain ⟨session, hsession⟩ := Option.isSome_iff_exists.1 hlive
  have hrotate (i : SessionId) := t.live?_rotate id i
  simp only [hsession, h.supply, h.issued] at hrotate
  have hissued : (t.rotate id).2.issued = s.issued + 1 := by
    rw [rotate_snd, hsession, ← h.issued]
    rfl
  refine ⟨?_, ⟨s.issued, Nat.le_refl _, by omega, rfl⟩, ?_, ?_, ?_⟩
  · rw [rotate_fst, hsession, h.supply, h.issued]
    rfl
  · rw [hrotate, if_pos rfl]
    rfl
  · rintro _ ⟨⟩
    rw [hrotate, if_neg hnew, if_pos rfl]
  · intro i hi hpresented
    rw [hrotate, if_neg hi, if_neg fun (he : i = id) => hpresented (he ▸ rfl), h.others i hpresented]

/-- A session is opened where the presented one is not alive. -/
theorem Uses.create (h : s.Uses presented t) (hdistinct : s.Distinct) (hnew : presented ≠ some (s.supply s.issued))
    (hdead : ∀ i, presented = some i → t.live? i = none) :
    t.create.1 = s.supply s.issued ∧ s.Renews presented (s.supply s.issued) t.create.2 := by
  have hcreate (i : SessionId) := live?_create (h.distinct hdistinct) i
  simp only [h.supply, h.issued] at hcreate
  have hissued : t.create.2.issued = s.issued + 1 := by
    rw [create_snd, ← h.issued]
    rfl
  refine ⟨by rw [create_fst, h.supply, h.issued], ⟨s.issued, Nat.le_refl _, by omega, rfl⟩,
    ?_, ?_, ?_⟩
  · rw [hcreate, if_pos rfl]
    rfl
  · intro i hi
    rw [hcreate, if_neg fun (he : i = s.supply s.issued) => hnew (he ▸ hi), hdead i hi]
  · intro i hi hpresented
    rw [hcreate, if_neg hi, h.others i hpresented]

/-- The new session is used. -/
theorem Renews.touch (h : s.Renews presented fresh t) : s.Renews presented fresh (t.touch fresh).2 where
  issues := by
    obtain ⟨n, hn, ht, hid⟩ := h.issues
    exact ⟨n, hn, by rwa [touch_issued], hid⟩
  lives := by
    rw [live?_touch, if_pos rfl, Option.isSome_map]
    exact h.lives
  gone i hi := by
    rw [live?_touch]
    split
    · rename_i he
      rw [← he, h.gone i hi]
      rfl
    · exact h.gone i hi
  others i hi hpresented := by
    rw [live?_touch, if_neg hi]
    exact h.others i hi hpresented

/-- A context is put into the new session. -/
theorem Renews.put (h : s.Renews presented fresh t) (c : SecurityContext) : (t.put fresh c).1 = true ∧
    s.Renews presented fresh (t.put fresh c).2 ∧ (t.put fresh c).2.Offers fresh c := by
  obtain ⟨session, hsession⟩ := Option.isSome_iff_exists.1 h.lives
  have hput (i : SessionId) := t.live?_put fresh i c
  rw [hsession] at hput
  have hstored : (t.put fresh c).1 = true := by
    rw [put_fst]
    exact h.lives
  have hkept := put_keeps hstored
  refine ⟨hstored, ⟨h.issues.later hkept.toLater, ?_, ?_, ?_⟩, hkept.kept⟩
  · rw [hput, if_pos rfl]
    rfl
  · intro i hi
    have hne : i ≠ fresh := by
      rintro rfl
      rw [h.gone i hi] at hsession
      cases hsession
    rw [hput, if_neg hne, h.gone i hi]
  · intro i hi hpresented
    rw [hput, if_neg hi, h.others i hi hpresented]

end Sessions

/-! ## Stores that lose no time -/

section Stores

variable {σ α : Type}

/-- The operation does to the sessions what `f` does to them, and no time passes. -/
def Op.Mirrors (op : Op σ α) (view : σ → Sessions) (f : Sessions → α × Sessions) : Prop :=
  ∀ s, (op s).1 = .ok (f (view s)).1 ∧ view (op s).2 = (f (view s)).2

/-- The store keeps its sessions in memory, where `view` finds them, and no time passes by its calls. -/
structure Store.Prompt (store : Store σ) (view : σ → Sessions) : Prop where
  create : store.create.Mirrors view Sessions.create
  isLive : ∀ id, (store.isLive id).Mirrors view (·.touch id)
  fetch : ∀ id, (store.fetch id).Mirrors view (·.fetch id)
  put : ∀ id c, (store.put id c).Mirrors view (·.put id c)
  clear : ∀ id, (store.clear id).Mirrors view fun s => ((), s.clear id)
  invalidate : ∀ id, (store.invalidate id).Mirrors view fun s => ((), s.erase id)
  rotate : ∀ id, (store.rotate id).Mirrors view (·.rotate id)

theorem Sessions.store_prompt : Sessions.store.Prompt id where
  create _ := ⟨rfl, rfl⟩
  isLive _ _ := ⟨rfl, rfl⟩
  fetch _ _ := ⟨rfl, rfl⟩
  put _ _ _ := ⟨rfl, rfl⟩
  clear _ _ := ⟨rfl, rfl⟩
  invalidate _ _ := ⟨rfl, rfl⟩
  rotate _ _ := ⟨rfl, rfl⟩

theorem Op.Mirrors.apply {op : Op σ α} {view : σ → Sessions} {f : Sessions → α × Sessions} (h : op.Mirrors view f)
    (s : σ) : ∃ t, op s = (.ok (f (view s)).1, t) ∧ view t = (f (view s)).2 :=
  ⟨(op s).2, Prod.ext (h s).1 rfl, (h s).2⟩

/-! ## Visits -/

/-- The visit has come with this session and nothing has been queued for it; of the sessions only that one has been
used. -/
structure Visit.Arrived (start : Sessions) (presented : Option SessionId) (visit : Visit) (t : Sessions) : Prop where
  session : visit.session = presented
  pending : visit.pending = []
  uses : start.Uses presented t

/-- The visit's session has a new id, and the cookie that tells the client is queued. -/
structure Visit.Renewed (start : Sessions) (presented : Option SessionId) (fresh : SessionId) (visit : Visit)
    (t : Sessions) : Prop where
  session : visit.session = some fresh
  pending : visit.pending = [("set-cookie", Cookie.render visit.cookieName fresh.text)]
  renews : start.Renews presented fresh t

/-- The visit's session has been renewed, or it was not alive in the first place. -/
def Visit.Rotated (start : Sessions) (presented : Option SessionId) (visit : Visit) (t : Sessions) : Prop :=
  visit.Renewed start presented (start.supply start.issued) t ∨
    visit.Arrived start presented t ∧ ∀ i, presented = some i → t.live? i = none

variable {store : Store σ} {view : σ → Sessions} {start : Sessions} {presented : Option SessionId} {visit : Visit}
  {s : σ}

theorem Visit.Arrived.bind {fresh : SessionId} {t u : Sessions} (h : visit.Arrived start presented t)
    (hrenews : start.Renews presented fresh u) : (visit.bind fresh).Renewed start presented fresh u :=
  ⟨rfl, by simp [Visit.bind, h.pending], hrenews⟩

namespace Repository

theorem load_arrived (hstore : store.Prompt view) (allow always : Bool)
    (h : visit.Arrived start presented (view s)) :
    ∃ c t, (inSession store allow always).load visit s = (.ok c, t) ∧ visit.Arrived start presented (view t) := by
  cases hid : visit.session with
  | none => exact ⟨.empty, s, by simp [inSession, hid], h⟩
  | some id =>
    obtain ⟨t, hfetch, hview⟩ := (hstore.fetch id).apply s
    refine ⟨_, t, by simp [inSession, hid, hfetch, Except.map]; rfl, h.session, h.pending, ?_⟩
    have huses := h.uses
    rw [← h.session, hid] at huses ⊢
    rw [hview, Sessions.fetch_snd]
    exact huses.touch

/-- The session that a visit has come with gets a new id if it is alive. -/
theorem rotate_renews (hstore : store.Prompt view) (allow always : Bool) (h : visit.Arrived start presented (view s))
    (hnew : presented ≠ some (start.supply start.issued)) :
    ∃ b visit' t, (inSession store allow always).rotate (visit, s) = (.ok b, (visit', t)) ∧
      visit'.cookieName = visit.cookieName ∧ visit'.Rotated start presented (view t) := by
  cases hid : visit.session with
  | none =>
    refine ⟨false, visit, s, by simp [inSession, hid], rfl, .inr ⟨h, ?_⟩⟩
    rw [← h.session, hid]
    intro i hi
    cases hi
  | some id =>
    have hpresented : presented = some id := h.session.symm.trans hid
    obtain ⟨t, hrotate, hview⟩ := (hstore.rotate id).apply s
    have huses := h.uses
    rw [hpresented] at huses
    cases hlive : (view s).live? id with
    | some session =>
      obtain ⟨hfresh, hrenews⟩ := huses.rotate (fun he => hnew (he ▸ hpresented)) (Option.isSome_of_eq_some hlive)
      rw [hfresh] at hrotate
      refine ⟨true, visit.bind (start.supply start.issued), t, by simp [inSession, hid, hrotate, Except.map], rfl,
        .inl (h.bind ?_)⟩
      rw [hview, hpresented]
      exact hrenews
    | none =>
      have hnone : ((view s).rotate id).1 = .none := by rw [Sessions.rotate_fst, hlive]; rfl
      have htouch : ((view s).rotate id).2 = ((view s).touch id).2 := by rw [Sessions.rotate_snd, hlive]
      rw [hnone] at hrotate
      refine ⟨false, visit, t, by simp [inSession, hid, hrotate], rfl, .inr ⟨⟨h.session, h.pending, ?_⟩, ?_⟩⟩
      · rw [hview, htouch, hpresented]
        exact huses.touch
      · intro i hi
        obtain rfl := Option.some.inj (hpresented.symm.trans hi)
        rw [hview, htouch, Sessions.live?_touch, if_pos rfl, hlive]
        rfl

/-- A session is opened for a context. -/
theorem keepWithoutSession_renewed (hstore : store.Prompt view) (always : Bool) {c : SecurityContext}
    (hc : c.isPersistable = true) (hdistinct : start.Distinct) (hnew : presented ≠ some (start.supply start.issued))
    (h : visit.Arrived start presented (view s)) (hdead : ∀ i, presented = some i → (view s).live? i = .none) :
    ∃ visit' t, keepWithoutSession store true always c (visit, s) = (.ok (), (visit', t)) ∧
      visit'.cookieName = visit.cookieName ∧ visit'.Renewed start presented (start.supply start.issued) (view t) ∧
      (view t).Offers (start.supply start.issued) c := by
  obtain ⟨t, hcreate, hview⟩ := hstore.create.apply s
  obtain ⟨hfresh, hrenews⟩ := h.uses.create hdistinct hnew hdead
  rw [hfresh] at hcreate
  rw [← hview] at hrenews
  obtain ⟨u, hput, hview'⟩ := (hstore.put (start.supply start.issued) c).apply t
  obtain ⟨hstored, hrenews', hoffers⟩ := hrenews.put c
  rw [hstored] at hput
  rw [← hview'] at hrenews' hoffers
  refine ⟨visit.bind (start.supply start.issued), u, ?_, rfl, h.bind hrenews', hoffers⟩
  simp [keepWithoutSession, openSession, hc, hcreate, hput]

/-- A context is kept in the renewed session, or in one that is opened for it. -/
theorem save_renewed (hstore : store.Prompt view) (always : Bool) {c : SecurityContext} (hc : c.isPersistable = true)
    (hdistinct : start.Distinct) (hnew : presented ≠ some (start.supply start.issued))
    (h : visit.Rotated start presented (view s)) :
    ∃ visit' t, (inSession store true always).save c (visit, s) = (.ok (), (visit', t)) ∧
      visit'.cookieName = visit.cookieName ∧ visit'.Renewed start presented (start.supply start.issued) (view t) ∧
      (view t).Offers (start.supply start.issued) c := by
  rcases h with h | ⟨h, hdead⟩
  · obtain ⟨t, hlive, hview⟩ := (hstore.isLive (start.supply start.issued)).apply s
    have halive : ((view s).touch (start.supply start.issued)).1 = true := by
      rw [Sessions.touch_fst]
      exact h.renews.lives
    rw [halive] at hlive
    obtain ⟨u, hput, hview'⟩ := (hstore.put (start.supply start.issued) c).apply t
    obtain ⟨-, hrenews, hoffers⟩ := h.renews.touch.put c
    rw [← hview, ← hview'] at hrenews hoffers
    refine ⟨visit, u, ?_, rfl, ⟨h.session, h.pending, hrenews⟩, hoffers⟩
    simp [inSession, h.session, hlive, keepInSession, hc, hput]
    rfl
  · cases hid : visit.session with
    | none =>
      obtain ⟨visit', t, hkeep, hrenewed⟩ := keepWithoutSession_renewed hstore always hc hdistinct hnew h hdead
      exact ⟨visit', t, by simp [inSession, hid, hkeep], hrenewed⟩
    | some id =>
      have hpresented : presented = some id := h.session.symm.trans hid
      obtain ⟨t, hlive, hview⟩ := (hstore.isLive id).apply s
      have hgone : ((view s).touch id).1 = false := by
        rw [Sessions.touch_fst, hdead id hpresented]
        rfl
      rw [hgone] at hlive
      have harrived : visit.Arrived start presented (view t) := by
        have huses := h.uses
        rw [hpresented] at huses
        refine ⟨h.session, h.pending, ?_⟩
        rw [hview, hpresented]
        exact huses.touch
      have hdead' : ∀ i, presented = some i → (view t).live? i = .none := by
        intro i hi
        rw [hview, Sessions.live?_touch]
        split
        · rw [hdead id hpresented]
          rfl
        · exact hdead i hi
      obtain ⟨visit', u, hkeep, hrenewed⟩ := keepWithoutSession_renewed hstore always hc hdistinct hnew harrived hdead'
      exact ⟨visit', u, by simp [inSession, hid, hlive, hkeep], hrenewed⟩

end Repository

end Stores

end Portcullis
