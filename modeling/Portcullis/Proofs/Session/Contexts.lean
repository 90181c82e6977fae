import Portcullis.Proofs.Session.Live

/-!
# Contexts in sessions

Which contexts the sessions hold, those of dead sessions included, and what a call can do about it. Every call either
adds nothing (`Sessions.Sheds`), or keeps a context in a session that is there (`Sessions.Keeps`), or opens a session
(`Sessions.Opens`), or moves one (`Sessions.Moves`); time may pass before it.

* `Store.InMemory`: a store whose calls do what the calls to sessions in memory do.
* `Store.InMemory.fetch_cases` and the like: what each call can do.
-/

namespace Portcullis

namespace Sessions

variable {s t u : Sessions} {id i : SessionId} {c : SecurityContext}

/-- A session of this id, dead or alive, holds this context. -/
def Holds (s : Sessions) (id : SessionId) (c : SecurityContext) : Prop :=
  ∃ session, (id, session) ∈ s.held ∧ session.context = some c

/-- The session of this id is alive, and a call would find this context there. -/
def Offers (s : Sessions) (id : SessionId) (c : SecurityContext) : Prop :=
  (s.fetch id).1 = some c

theorem offers_iff : s.Offers id c ↔ ∃ session, s.live? id = some session ∧ session.context = some c := by
  rw [Offers, fetch_fst, Option.bind_eq_some_iff]

theorem holds_of_offers (h : s.Offers id c) : s.Holds id c := by
  obtain ⟨session, hl, hc⟩ := offers_iff.1 h
  exact ⟨session, mem_held_of_find? (live?_eq_some_iff.1 hl).1, hc⟩

theorem mem_ids_of_holds (h : s.Holds id c) : id ∈ s.ids := by
  obtain ⟨session, hmem, -⟩ := h
  exact List.mem_map_of_mem hmem

theorem holds_erase : (s.erase id).Holds i c ↔ i ≠ id ∧ s.Holds i c := by
  simp [Holds, erase, and_assoc, and_left_comm]

theorem holds_insert {session : Session} :
    (s.insert id session).Holds i c ↔ i = id ∧ session.context = some c ∨ i ≠ id ∧ s.Holds i c := by
  constructor
  · rintro ⟨x, hx, hc⟩
    rcases List.mem_cons.1 hx with h | h
    · obtain ⟨rfl, rfl⟩ := Prod.mk.inj h
      exact .inl ⟨rfl, hc⟩
    · exact .inr (holds_erase.1 ⟨x, h, hc⟩)
  · rintro (⟨rfl, hc⟩ | h)
    · exact ⟨session, List.mem_cons_self, hc⟩
    · obtain ⟨x, hx, hc⟩ := holds_erase.2 h
      exact ⟨x, List.mem_cons_of_mem _ hx, hc⟩

theorem holds_modify {f : Session → Session} :
    (s.modify id f).Holds i c ↔
      ∃ session, (i, session) ∈ s.held ∧ (if i = id then f session else session).context = some c := by
  constructor
  · rintro ⟨x, hx, hc⟩
    obtain ⟨⟨j, y⟩, hy, he⟩ := List.mem_map.1 hx
    by_cases hj : j = id
    · simp only [hj, if_true, Prod.mk.injEq] at he
      obtain ⟨rfl, rfl⟩ := he
      exact ⟨y, hj ▸ hy, by simpa using hc⟩
    · simp only [hj, if_false, Prod.mk.injEq] at he
      obtain ⟨rfl, rfl⟩ := he
      exact ⟨y, hy, by simpa [hj] using hc⟩
  · rintro ⟨y, hy, hc⟩
    refine ⟨if i = id then f y else y, List.mem_map.2 ⟨(i, y), hy, ?_⟩, hc⟩
    by_cases hi : i = id <;> simp [hi]

theorem not_mem_ids_of_find?_eq_none (h : s.find? id = none) : id ∉ s.ids := by
  intro hmem
  obtain ⟨⟨j, x⟩, hx, rfl⟩ := List.mem_map.1 hmem
  have := List.lookup_eq_none_iff.1 h _ hx
  simp at this

/-! ## What calls do -/

/-- The id has been issued on the way from `s` to `t`. -/
def Issues (s t : Sessions) (id : SessionId) : Prop :=
  ∃ n, s.issued ≤ n ∧ n < t.issued ∧ id = s.supply n

/-- Ids are issued from the same supply, none is issued again, and none is held twice. -/
structure Later (s t : Sessions) : Prop where
  supply : t.supply = s.supply
  issued : s.issued ≤ t.issued
  distinct : s.Distinct → t.Distinct

/-- Nothing has been added: `t` holds no session and no context that `s` does not hold, and offers none that `s` does
not offer. -/
structure Sheds (s t : Sessions) : Prop extends s.Later t where
  holds : ∀ i c, t.Holds i c → s.Holds i c
  offers : s.Distinct → ∀ i c, t.Offers i c → s.Offers i c
  ids : t.ids ⊆ s.ids

/-- The context has been put into the session of `id`, in place of what was there. -/
structure Keeps (s : Sessions) (id : SessionId) (c : SecurityContext) (t : Sessions) : Prop extends s.Later t where
  kept : t.Offers id c
  only : ∀ c', t.Holds id c' → c' = c
  others : ∀ i c', i ≠ id → t.Holds i c' → s.Holds i c'
  offers : s.Distinct → ∀ i c', i ≠ id → t.Offers i c' → s.Offers i c'
  ids : t.ids ⊆ s.ids

/-- A session without a context has been opened. -/
structure Opens (s : Sessions) (id : SessionId) (t : Sessions) : Prop extends s.Later t where
  issues : s.Issues t id
  only : ∀ c, ¬ t.Holds id c
  others : ∀ i c, t.Holds i c → s.Holds i c
  offers : s.Distinct → ∀ i c, t.Offers i c → s.Offers i c
  ids : t.ids ⊆ id :: s.ids

/-- The session of `id` has been moved to another id. -/
structure Moves (s : Sessions) (id fresh : SessionId) (t : Sessions) : Prop extends s.Later t where
  issues : s.Issues t fresh
  moved : ∀ c, t.Holds fresh c → s.Holds id c
  others : ∀ i c, i ≠ fresh → t.Holds i c → i ≠ id ∧ s.Holds i c
  offers : s.Distinct → ∀ i c, i ≠ fresh → t.Offers i c → s.Offers i c
  ids : ∀ i ∈ t.ids, i = fresh ∨ i ≠ id ∧ i ∈ s.ids

theorem Later.refl (s : Sessions) : s.Later s :=
  ⟨rfl, Nat.le_refl _, fun h => h⟩

theorem Later.trans (h : s.Later t) (h' : t.Later u) : s.Later u :=
  ⟨h'.supply.trans h.supply, Nat.le_trans h.issued h'.issued, fun hd => h'.distinct (h.distinct hd)⟩

theorem Later.issues (h : s.Later t) (h' : t.Issues u id) : s.Issues u id := by
  obtain ⟨n, hn, hu, rfl⟩ := h'
  exact ⟨n, Nat.le_trans h.issued hn, hu, by rw [h.supply]⟩

theorem Issues.later (h : s.Issues t id) (h' : t.Later u) : s.Issues u id := by
  obtain ⟨n, hn, ht, rfl⟩ := h
  exact ⟨n, hn, Nat.lt_of_lt_of_le ht h'.issued, rfl⟩

theorem Sheds.refl (s : Sessions) : s.Sheds s :=
  ⟨.refl s, fun _ _ h => h, fun _ _ _ h => h, fun _ h => h⟩

theorem Sheds.trans (h : s.Sheds t) (h' : t.Sheds u) : s.Sheds u where
  toLater := h.toLater.trans h'.toLater
  holds i c hc := h.holds i c (h'.holds i c hc)
  offers hd i c hc := h.offers hd i c (h'.offers (h.distinct hd) i c hc)
  ids := fun _ hi => h.ids (h'.ids hi)

theorem Sheds.keeps (h : s.Sheds t) (h' : t.Keeps id c u) : s.Keeps id c u where
  toLater := h.toLater.trans h'.toLater
  kept := h'.kept
  only := h'.only
  others i c' hi hc := h.holds i c' (h'.others i c' hi hc)
  offers hd i c' hi hc := h.offers hd i c' (h'.offers (h.distinct hd) i c' hi hc)
  ids := fun _ hi => h.ids (h'.ids hi)

theorem Sheds.opens (h : s.Sheds t) (h' : t.Opens id u) : s.Opens id u where
  toLater := h.toLater.trans h'.toLater
  issues := h.toLater.issues h'.issues
  only := h'.only
  others i c hc := h.holds i c (h'.others i c hc)
  offers hd i c hc := h.offers hd i c (h'.offers (h.distinct hd) i c hc)
  ids := fun _ hi => List.cons_subset_cons id h.ids (h'.ids hi)

theorem Sheds.moves {fresh : SessionId} (h : s.Sheds t) (h' : t.Moves id fresh u) : s.Moves id fresh u where
  toLater := h.toLater.trans h'.toLater
  issues := h.toLater.issues h'.issues
  moved c hc := h.holds id c (h'.moved c hc)
  others i c hi hc := ⟨(h'.others i c hi hc).1, h.holds i c (h'.others i c hi hc).2⟩
  offers hd i c hi hc := h.offers hd i c (h'.offers (h.distinct hd) i c hi hc)
  ids i hi := (h'.ids i hi).imp_right fun hi => ⟨hi.1, h.ids hi.2⟩

theorem sheds_wait (s : Sessions) (ms : Nat) : s.Sheds (s.wait ms) where
  toLater := ⟨rfl, Nat.le_refl _, fun h => h⟩
  holds _ _ h := h
  offers _ i c h := by
    obtain ⟨session, hl, hc⟩ := offers_iff.1 h
    rw [live?_wait, Option.filter_eq_some_iff] at hl
    exact offers_iff.2 ⟨session, hl.1, hc⟩
  ids := fun _ h => h

theorem sheds_purge (s : Sessions) : s.Sheds s.purge where
  toLater := ⟨rfl, Nat.le_refl _, fun h => h.purge⟩
  holds _ _ h := by
    obtain ⟨x, hx, hc⟩ := h
    exact ⟨x, (List.mem_filter.1 hx).1, hc⟩
  offers hd i c h := by
    rw [offers_iff, live?_purge hd] at h
    exact offers_iff.2 h
  ids := s.ids_purge_sublist.subset

theorem sheds_clear (s : Sessions) (id : SessionId) : s.Sheds (s.clear id) where
  toLater := ⟨rfl, Nat.le_refl _, fun h => h.modify id _⟩
  holds i c h := by
    obtain ⟨x, hx, hc⟩ := holds_modify.1 h
    by_cases hi : i = id
    · simp [hi] at hc
    · exact ⟨x, hx, by simpa [hi] using hc⟩
  offers _ i c h := by
    obtain ⟨session, hl, hc⟩ := offers_iff.1 h
    rw [live?_clear] at hl
    split at hl
    · obtain ⟨x, -, rfl⟩ := Option.map_eq_some_iff.1 hl
      cases hc
    · exact offers_iff.2 ⟨session, hl, hc⟩
  ids := by simp [clear]

theorem sheds_touch (s : Sessions) (id : SessionId) : s.Sheds (s.touch id).2 where
  toLater := ⟨s.touch_supply id, Nat.le_of_eq (s.touch_issued id).symm, fun h => h.touch id⟩
  holds i c h := by
    unfold touch at h
    cases hf : s.find? id with
    | none => simpa [hf] using h
    | some session =>
      cases hd : s.isDead session with
      | true =>
        simp only [hf, hd, if_true] at h
        exact (holds_erase.1 h).2
      | false =>
        simp only [hf, hd, Bool.false_eq_true, if_false] at h
        obtain ⟨x, hx, hc⟩ := holds_modify.1 h
        exact ⟨x, hx, by by_cases hi : i = id <;> simpa [hi] using hc⟩
  offers _ i c h := by
    obtain ⟨session, hl, hc⟩ := offers_iff.1 h
    rw [live?_touch] at hl
    split at hl
    · rename_i hi
      obtain ⟨x, hx, rfl⟩ := Option.map_eq_some_iff.1 hl
      exact offers_iff.2 ⟨x, hi ▸ hx, hc⟩
    · exact offers_iff.2 ⟨session, hl, hc⟩
  ids := s.ids_touch id

theorem sheds_countCreate (s : Sessions) : s.Sheds s.countCreate where
  toLater := by
    obtain ⟨held, h⟩ := s.countCreate_eq
    exact ⟨by rw [h], Nat.le_of_eq (by rw [h]), fun hd => hd.countCreate⟩
  holds i c h := by
    unfold countCreate at h
    split at h
    · exact s.sheds_purge.holds i c h
    · exact h
  offers hd i c h := by
    rw [offers_iff, live?_countCreate hd] at h
    exact offers_iff.2 h
  ids := s.ids_countCreate

/-- A session that a use does not find is held no longer. -/
theorem not_mem_ids_of_touch (h : (s.touch id).1 = false) : id ∉ (s.touch id).2.ids := by
  unfold touch at h ⊢
  cases hf : s.find? id with
  | none => exact not_mem_ids_of_find?_eq_none hf
  | some session =>
    cases hd : s.isDead session with
    | true => simp [hd, ids_erase]
    | false => simp [hf, hd] at h

theorem put_keeps (h : (s.put id c).1 = true) : s.Keeps id c (s.put id c).2 := by
  have hl : (s.live? id).isSome = true := by rwa [put_fst] at h
  obtain ⟨session, hs⟩ := Option.isSome_iff_exists.1 hl
  have hsnd : (s.put id c).2 = (s.touch id).2.modify id ({ · with context := some c }) := by rw [put_snd, if_pos hl]
  have hsheds := s.sheds_touch id
  have hlive (i : SessionId) := s.live?_put id i c
  have hdistinct : s.Distinct → (s.put id c).2.Distinct := fun hd => hd.put id c
  rw [hsnd] at hlive hdistinct ⊢
  refine ⟨⟨hsheds.supply, hsheds.issued, hdistinct⟩, ?_, ?_, ?_, ?_, ?_⟩
  · exact offers_iff.2 ⟨{ context := some c, lastUsed := s.now }, by rw [hlive, if_pos rfl, hs, Option.map_some], rfl⟩
  · intro c' hc'
    obtain ⟨x, -, hx⟩ := holds_modify.1 hc'
    simpa using hx.symm
  · intro i c' hi hc'
    obtain ⟨x, hx, hxc⟩ := holds_modify.1 hc'
    exact hsheds.holds i c' ⟨x, hx, by simpa [hi] using hxc⟩
  · intro _ i c' hi hc'
    rw [offers_iff, hlive, if_neg hi] at hc'
    exact offers_iff.2 hc'
  · rw [ids_modify]
    exact hsheds.ids

theorem put_sheds (h : (s.put id c).1 = false) : s.Sheds (s.put id c).2 ∧ id ∉ (s.put id c).2.ids := by
  have hl : (s.live? id).isSome = false := by rwa [put_fst] at h
  rw [put_snd, hl]
  exact ⟨s.sheds_touch id, not_mem_ids_of_touch (by rw [touch_fst, hl])⟩

theorem create_opens (s : Sessions) : s.Opens s.create.1 s.create.2 := by
  have hsheds := s.sheds_countCreate
  have hlive := fun hd i => live?_create (s := s) hd i
  have hdistinct : s.Distinct → s.create.2.Distinct := fun hd => hd.create
  rw [create_fst]
  rw [create_snd] at hlive hdistinct ⊢
  refine ⟨⟨hsheds.supply, Nat.le_succ _, hdistinct⟩, ⟨s.issued, Nat.le_refl _, Nat.lt_succ_self _, rfl⟩, ?_, ?_, ?_, ?_⟩
  · intro c hc
    rcases holds_insert.1 hc with ⟨-, h⟩ | ⟨h, -⟩
    · cases h
    · exact h rfl
  · intro i c hc
    rcases holds_insert.1 hc with ⟨-, h⟩ | ⟨-, h⟩
    · cases h
    · exact hsheds.holds i c h
  · intro hd i c hc
    obtain ⟨session, hl, hx⟩ := offers_iff.1 hc
    rw [hlive hd] at hl
    split at hl
    · cases hl
      cases hx
    · exact offers_iff.2 ⟨session, hl, hx⟩
  · rw [ids_insert]
    intro i hi
    rcases List.mem_cons.1 hi with rfl | hi
    · exact List.mem_cons_self
    · exact List.mem_cons_of_mem _ (hsheds.ids (List.mem_filter.1 hi).1)

theorem rotate_moves {fresh : SessionId} (h : (s.rotate id).1 = some fresh) : s.Moves id fresh (s.rotate id).2 := by
  rw [rotate_fst] at h
  obtain ⟨session, hl, rfl⟩ := Option.map_eq_some_iff.1 h
  have hsheds := s.sheds_touch id
  have hmem := mem_held_of_find? (live?_eq_some_iff.1 hl).1
  have hlive (i : SessionId) := s.live?_rotate id i
  have hdistinct : s.Distinct → (s.rotate id).2.Distinct := fun hd => hd.rotate id
  rw [rotate_snd, hl] at hlive hdistinct ⊢
  refine ⟨⟨hsheds.supply, Nat.le_succ _, hdistinct⟩, ⟨s.issued, Nat.le_refl _, Nat.lt_succ_self _, rfl⟩, ?_, ?_, ?_, ?_⟩
  · intro c hc
    rcases holds_insert.1 hc with ⟨-, hc⟩ | ⟨h, -⟩
    · exact ⟨session, hmem, hc⟩
    · exact absurd rfl h
  · intro i c hi hc
    rcases holds_insert.1 hc with ⟨h, -⟩ | ⟨-, hc⟩
    · exact absurd h hi
    · exact ⟨(holds_erase.1 hc).1, hsheds.holds i c (holds_erase.1 hc).2⟩
  · intro _ i c hi hc
    obtain ⟨x, hx, hxc⟩ := offers_iff.1 hc
    rw [hlive] at hx
    simp only [if_neg hi] at hx
    split at hx
    · cases hx
    · exact offers_iff.2 ⟨x, hx, hxc⟩
  · intro i hi
    rw [ids_insert] at hi
    rcases List.mem_cons.1 hi with rfl | hi
    · exact .inl rfl
    · have hi' : i ∈ ((s.touch id).2.erase id).ids := (List.mem_filter.1 hi).1
      rw [ids_erase, List.mem_filter] at hi'
      exact .inr ⟨by simpa using hi'.2, hsheds.ids hi'.1⟩

theorem rotate_sheds (h : (s.rotate id).1 = none) : s.Sheds (s.rotate id).2 ∧ id ∉ (s.rotate id).2.ids := by
  have hl : s.live? id = none := by
    rw [rotate_fst] at h
    exact Option.map_eq_none_iff.1 h
  rw [rotate_snd, hl]
  exact ⟨s.sheds_touch id, not_mem_ids_of_touch (by rw [touch_fst, hl]; rfl)⟩

end Sessions

/-! ## Stores of sessions in memory -/

section Stores

variable {σ α : Type}

/-- The operation does to the sessions what `f` does to them, though some time may pass first. -/
def Op.Follows (op : Op σ α) (view : σ → Sessions) (f : Sessions → α × Sessions) : Prop :=
  ∀ s, ∃ ms, (op s).1 = .ok (f ((view s).wait ms)).1 ∧ view (op s).2 = (f ((view s).wait ms)).2

/-- The store keeps its sessions in memory, where `view` finds them. -/
structure Store.InMemory (store : Store σ) (view : σ → Sessions) : Prop where
  create : store.create.Follows view Sessions.create
  isLive : ∀ id, (store.isLive id).Follows view (·.touch id)
  fetch : ∀ id, (store.fetch id).Follows view (·.fetch id)
  put : ∀ id c, (store.put id c).Follows view (·.put id c)
  clear : ∀ id, (store.clear id).Follows view fun s => ((), s.clear id)
  invalidate : ∀ id, (store.invalidate id).Follows view fun s => ((), s.erase id)
  rotate : ∀ id, (store.rotate id).Follows view (·.rotate id)

theorem Sessions.store_inMemory : Sessions.store.InMemory id where
  create _ := ⟨0, rfl, rfl⟩
  isLive _ _ := ⟨0, rfl, rfl⟩
  fetch _ _ := ⟨0, rfl, rfl⟩
  put _ _ _ := ⟨0, rfl, rfl⟩
  clear _ _ := ⟨0, rfl, rfl⟩
  invalidate _ _ := ⟨0, rfl, rfl⟩
  rotate _ _ := ⟨0, rfl, rfl⟩

namespace Store.InMemory

variable {store : Store σ} {view : σ → Sessions}

theorem create_cases (h : store.InMemory view) (s : σ) :
    ∃ id t, store.create s = (.ok id, t) ∧ (view s).Opens id (view t) := by
  obtain ⟨ms, hresult, hview⟩ := h.create s
  refine ⟨_, _, Prod.ext hresult rfl, ?_⟩
  rw [hview]
  exact (Sessions.sheds_wait _ ms).opens (Sessions.create_opens _)

theorem isLive_cases (h : store.InMemory view) (id : SessionId) (s : σ) :
    ∃ b t, store.isLive id s = (.ok b, t) ∧ (view s).Sheds (view t) ∧ (b = false → id ∉ (view t).ids) := by
  obtain ⟨ms, hresult, hview⟩ := h.isLive id s
  refine ⟨_, _, Prod.ext hresult rfl, ?_, fun hb => ?_⟩
  · rw [hview]
    exact (Sessions.sheds_wait _ ms).trans (Sessions.sheds_touch _ id)
  · rw [hview]
    exact Sessions.not_mem_ids_of_touch hb

theorem fetch_cases (h : store.InMemory view) (id : SessionId) (s : σ) :
    ∃ c t, store.fetch id s = (.ok c, t) ∧ (view s).Sheds (view t) ∧
      ∀ c', c = some c' → (view s).Holds id c' ∧ ((view s).Distinct → (view s).Offers id c') := by
  obtain ⟨ms, hresult, hview⟩ := h.fetch id s
  refine ⟨_, _, Prod.ext hresult rfl, ?_, fun c' hc' => ?_⟩
  · rw [hview, Sessions.fetch_snd]
    exact (Sessions.sheds_wait _ ms).trans (Sessions.sheds_touch _ id)
  · have hwait := Sessions.sheds_wait (view s) ms
    exact ⟨hwait.holds _ _ (Sessions.holds_of_offers hc'), fun hd => hwait.offers hd _ _ hc'⟩

theorem put_cases (h : store.InMemory view) (id : SessionId) (c : SecurityContext) (s : σ) :
    ∃ b t, store.put id c s = (.ok b, t) ∧ (b = true ∧ (view s).Keeps id c (view t) ∨
      b = false ∧ (view s).Sheds (view t) ∧ id ∉ (view t).ids) := by
  obtain ⟨ms, hresult, hview⟩ := h.put id c s
  refine ⟨_, _, Prod.ext hresult rfl, ?_⟩
  rw [hview]
  cases hb : (((view s).wait ms).put id c).1 with
  | true => exact .inl ⟨rfl, (Sessions.sheds_wait _ ms).keeps (Sessions.put_keeps hb)⟩
  | false => exact .inr ⟨rfl, (Sessions.sheds_wait _ ms).trans (Sessions.put_sheds hb).1, (Sessions.put_sheds hb).2⟩

theorem clear_cases (h : store.InMemory view) (id : SessionId) (s : σ) :
    ∃ t, store.clear id s = (.ok (), t) ∧ (view s).Sheds (view t) := by
  obtain ⟨ms, hresult, hview⟩ := h.clear id s
  refine ⟨_, Prod.ext hresult rfl, ?_⟩
  rw [hview]
  exact (Sessions.sheds_wait _ ms).trans (Sessions.sheds_clear _ id)

theorem rotate_cases (h : store.InMemory view) (id : SessionId) (s : σ) :
    ∃ o t, store.rotate id s = (.ok o, t) ∧ ((∃ fresh, o = some fresh ∧ (view s).Moves id fresh (view t)) ∨
      o = none ∧ (view s).Sheds (view t) ∧ id ∉ (view t).ids) := by
  obtain ⟨ms, hresult, hview⟩ := h.rotate id s
  refine ⟨_, _, Prod.ext hresult rfl, ?_⟩
  rw [hview]
  cases ho : (((view s).wait ms).rotate id).1 with
  | some fresh => exact .inl ⟨fresh, rfl, (Sessions.sheds_wait _ ms).moves (Sessions.rotate_moves ho)⟩
  | none =>
    exact .inr ⟨rfl, (Sessions.sheds_wait _ ms).trans (Sessions.rotate_sheds ho).1, (Sessions.rotate_sheds ho).2⟩

end Store.InMemory

end Stores

end Portcullis
