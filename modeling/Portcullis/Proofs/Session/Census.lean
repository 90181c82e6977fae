import Mathlib.Data.Finset.Card
import Portcullis.Proofs.Session.Renewal

/-!
# Which sessions live

Of the operations on visits only two change which ids have a live session: a save that opens one, and a rotation that
finds one. Here no time passes by the calls (`Store.Prompt`).

* `Sessions.Stays`, `Sessions.Adds`, `Sessions.Renames`: the same ids live; one more does; one does in place of another.
* `Repository.load_stays`, `Repository.save_counts`, `Repository.rotate_counts`: what the repository of sessions does.
* `Sessions.population`: how many sessions live.
-/

namespace Portcullis

namespace Sessions

variable {s t u : Sessions} {id fresh : SessionId}

/-- The session of this id is alive. -/
def Alive (s : Sessions) (id : SessionId) : Prop :=
  (s.live? id).isSome = true

instance (s : Sessions) (id : SessionId) : Decidable (s.Alive id) :=
  inferInstanceAs (Decidable ((s.live? id).isSome = true))

/-- The same ids are alive, and nothing has been opened or issued. -/
structure Stays (s t : Sessions) : Prop where
  supply : t.supply = s.supply
  issued : t.issued = s.issued
  created : t.created = s.created
  distinct : s.Distinct → t.Distinct
  alive : ∀ i, t.Alive i ↔ s.Alive i

/-- A session has been opened under the next id of the supply. -/
structure Adds (s t : Sessions) : Prop where
  supply : t.supply = s.supply
  issued : t.issued = s.issued + 1
  created : t.created = s.created + 1
  distinct : t.Distinct
  alive : ∀ i, t.Alive i ↔ i = s.supply s.issued ∨ s.Alive i

/-- A live session has been moved to the next id of the supply. -/
structure Renames (s : Sessions) (id : SessionId) (t : Sessions) : Prop where
  supply : t.supply = s.supply
  issued : t.issued = s.issued + 1
  created : t.created = s.created
  distinct : s.Distinct → t.Distinct
  was : s.Alive id
  alive : ∀ i, t.Alive i ↔ i = s.supply s.issued ∨ i ≠ id ∧ s.Alive i

/-! ## Operations -/

theorem Stays.refl (s : Sessions) : s.Stays s :=
  ⟨rfl, rfl, rfl, fun h => h, fun _ => Iff.rfl⟩

theorem Stays.trans (h : s.Stays t) (h' : t.Stays u) : s.Stays u where
  supply := h'.supply.trans h.supply
  issued := h'.issued.trans h.issued
  created := h'.created.trans h.created
  distinct hd := h'.distinct (h.distinct hd)
  alive i := (h'.alive i).trans (h.alive i)

theorem Stays.adds (h : s.Stays t) (h' : t.Adds u) : s.Adds u where
  supply := h'.supply.trans h.supply
  issued := by rw [h'.issued, h.issued]
  created := by rw [h'.created, h.created]
  distinct := h'.distinct
  alive i := by rw [h'.alive, h.alive, h.supply, h.issued]

theorem Adds.stays (h : s.Adds t) (h' : t.Stays u) : s.Adds u where
  supply := h'.supply.trans h.supply
  issued := h'.issued.trans h.issued
  created := h'.created.trans h.created
  distinct := h'.distinct h.distinct
  alive i := (h'.alive i).trans (h.alive i)

/-- Changes of the sessions that are held, by which none dies and none comes to life. -/
theorem stays_of_held {held : List (SessionId × Session)} (h : t = { s with held := held })
    (hdistinct : s.Distinct → t.Distinct) (halive : ∀ i, (t.live? i).isSome = (s.live? i).isSome) : s.Stays t := by
  refine ⟨by rw [h], by rw [h], by rw [h], hdistinct, fun i => ?_⟩
  unfold Alive
  rw [halive]

theorem stays_touch (s : Sessions) (id : SessionId) : s.Stays (s.touch id).2 := by
  obtain ⟨held, h⟩ := s.touch_snd id
  refine stays_of_held h (fun hd => hd.touch id) fun i => ?_
  rw [live?_touch]
  by_cases hi : i = id
  · rw [if_pos hi, Option.isSome_map, hi]
  · rw [if_neg hi]

theorem stays_put (s : Sessions) (id : SessionId) (c : SecurityContext) : s.Stays (s.put id c).2 := by
  obtain ⟨held, h⟩ := s.exists_put id c
  refine stays_of_held h (fun hd => hd.put id c) fun i => ?_
  rw [live?_put]
  by_cases hi : i = id
  · rw [if_pos hi, Option.isSome_map, hi]
  · rw [if_neg hi]

theorem stays_clear (s : Sessions) (id : SessionId) : s.Stays (s.clear id) := by
  have h : s.clear id = { s with held := (s.clear id).held } := rfl
  refine stays_of_held h (fun hd => hd.modify id _) fun i => ?_
  rw [live?_clear]
  by_cases hi : i = id
  · rw [if_pos hi, Option.isSome_map, hi]
  · rw [if_neg hi]

theorem adds_create (hd : s.Distinct) : s.Adds s.create.2 := by
  obtain ⟨held, h⟩ := s.exists_create
  refine ⟨by rw [h], by rw [h], by rw [h], hd.create, fun i => ?_⟩
  unfold Alive
  rw [live?_create hd]
  by_cases hi : i = s.supply s.issued
  · simp [hi]
  · simp [hi]

theorem renames_rotate (hlive : s.Alive id) : s.Renames id (s.rotate id).2 := by
  obtain ⟨held, h⟩ := s.exists_rotate id
  rw [if_pos (show (s.live? id).isSome = true from hlive)] at h
  refine ⟨by rw [h], by rw [h], by rw [h], fun hd => hd.rotate id, hlive, fun i => ?_⟩
  obtain ⟨session, hsession⟩ := Option.isSome_iff_exists.1 hlive
  unfold Alive
  rw [live?_rotate, hsession]
  by_cases hi : i = s.supply s.issued
  · simp [hi]
  · by_cases ho : i = id
    · simp [ho]
    · simp [hi, ho]

/-- A rotation that finds nothing is a use. -/
theorem stays_rotate (hlive : ¬s.Alive id) : s.Stays (s.rotate id).2 := by
  have hnone : s.live? id = none := by simpa [Alive] using hlive
  rw [rotate_snd, hnone]
  exact s.stays_touch id

/-! ## Counting -/

/-- The ids that are alive. -/
def liveIds (s : Sessions) : Finset SessionId :=
  (s.ids.filter fun id => (s.live? id).isSome).toFinset

/-- How many sessions live. -/
def population (s : Sessions) : Nat :=
  s.liveIds.card

theorem mem_liveIds : id ∈ s.liveIds ↔ s.Alive id := by
  unfold liveIds Alive
  rw [List.mem_toFinset, List.mem_filter]
  constructor
  · exact fun h => h.2
  · exact fun h => ⟨mem_ids_of_live h, h⟩

/-- Where everybody alive has been alive before, no more are alive. -/
theorem population_le (h : ∀ i, t.Alive i → s.Alive i) : t.population ≤ s.population := by
  refine Finset.card_le_card fun i hi => ?_
  rw [mem_liveIds] at hi ⊢
  exact h i hi

theorem Stays.population (h : s.Stays t) : t.population = s.population :=
  Nat.le_antisymm (population_le fun i hi => (h.alive i).1 hi) (population_le fun i hi => (h.alive i).2 hi)

/-- A session that is moved is one session before and after. -/
theorem Renames.population (h : s.Renames id t) : t.population ≤ s.population := by
  have hsubset : t.liveIds ⊆ Insert.insert (s.supply s.issued) (s.liveIds.erase id) := by
    intro i hi
    rw [mem_liveIds, h.alive] at hi
    rw [Finset.mem_insert, Finset.mem_erase, mem_liveIds]
    exact hi
  have hmem : id ∈ s.liveIds := mem_liveIds.2 h.was
  have hcard := Finset.card_erase_add_one hmem
  have hinsert := Finset.card_insert_le (s.supply s.issued) (s.liveIds.erase id)
  have hle := Finset.card_le_card hsubset
  unfold Sessions.population
  omega

/-- Time lets nobody come to life. -/
theorem population_wait (s : Sessions) (ms : Nat) : (s.wait ms).population ≤ s.population := by
  refine population_le fun i hi => ?_
  unfold Alive at hi ⊢
  rw [live?_wait] at hi
  obtain ⟨session, hsession⟩ := Option.isSome_iff_exists.1 hi
  rw [(Option.filter_eq_some_iff.1 hsession).1]
  rfl

end Sessions

/-! ## Visits -/

/-- The visit is bound to a session that is alive. -/
def Visit.Lives (visit : Visit) (s : Sessions) : Prop :=
  ∃ id, visit.session = some id ∧ s.Alive id

instance (visit : Visit) (s : Sessions) : Decidable (visit.Lives s) :=
  decidable_of_iff (visit.session.any fun id => (s.live? id).isSome) <| by
    simp [Visit.Lives, Sessions.Alive, Option.any_eq_true_iff_get, Option.eq_some_iff_get_eq]

theorem Visit.Lives.stays {visit : Visit} {s t : Sessions} (h : visit.Lives s) (h' : s.Stays t) : visit.Lives t := by
  obtain ⟨id, hid, halive⟩ := h
  exact ⟨id, hid, (h'.alive id).2 halive⟩

section Visits

variable {σ : Type} {store : Store σ} {view : σ → Sessions}

/-- How a save of a context can end, for a repository that keeps contexts in sessions. -/
inductive Sessions.Saves (allow always : Bool) (c : SecurityContext) (visit : Visit) (s : Sessions) :
    Visit → Sessions → Prop
  /-- No session is opened: the visit has a live one, or none is to be opened. -/
  | stays {t : Sessions} (h : s.Stays t)
    (hwhy : (∃ id, visit.session = some id ∧ s.Alive id) ∨ allow = false ∨ c.isPersistable = false ∧ always = false) :
    Saves allow always c visit s visit t
  /-- A session is opened for a visit that has no live one. -/
  | opens {t : Sessions} (h : s.Adds t) (hdead : ∀ id, visit.session = some id → ¬s.Alive id) (hallow : allow = true)
    (hwant : c.isPersistable = true ∨ always = true) : Saves allow always c visit s (visit.bind (s.supply s.issued)) t

/-- How a rotation can end. -/
inductive Sessions.Rotates (visit : Visit) (s : Sessions) : Visit → Sessions → Prop
  | stays {t : Sessions} (h : s.Stays t) (hdead : ∀ id, visit.session = some id → ¬s.Alive id) :
    Rotates visit s visit t
  | renames {id : SessionId} {t : Sessions} (hid : visit.session = some id) (h : s.Renames id t) :
    Rotates visit s (visit.bind (s.supply s.issued)) t

namespace Repository

theorem load_stays (hstore : store.Prompt view) (allow always : Bool) (visit : Visit) (s : σ) :
    ∃ c t, (inSession store allow always).load visit s = (.ok c, t) ∧ (view s).Stays (view t) := by
  cases hid : visit.session with
  | none => exact ⟨.empty, s, by simp [inSession, hid], .refl _⟩
  | some id =>
    obtain ⟨t, hfetch, hview⟩ := (hstore.fetch id).apply s
    refine ⟨((view s).fetch id).1.getD .empty, t, by simp [inSession, hid, hfetch, Except.map], ?_⟩
    rw [hview, Sessions.fetch_snd]
    exact (view s).stays_touch id

/-- A session that is opened for a context holds it at once, if it is to hold it. -/
theorem openSession_adds (hstore : store.Prompt view) (c : SecurityContext) (visit : Visit) {s : σ}
    (hd : (view s).Distinct) : ∃ t, (openSession store c (visit, s)).2 =
      (visit.bind ((view s).supply (view s).issued), t) ∧ (view s).Adds (view t) := by
  obtain ⟨t, hcreate, hview⟩ := hstore.create.apply s
  rw [Sessions.create_fst] at hcreate
  have hadds := Sessions.adds_create hd
  rw [← hview] at hadds
  cases hc : c.isPersistable with
  | false => exact ⟨t, by simp [openSession, hcreate, hc], hadds⟩
  | true =>
    obtain ⟨u, hput, hview'⟩ := (hstore.put ((view s).supply (view s).issued) c).apply t
    have hstays := (view t).stays_put ((view s).supply (view s).issued) c
    rw [← hview'] at hstays
    refine ⟨u, ?_, hadds.stays hstays⟩
    cases hstored : ((view t).put ((view s).supply (view s).issued) c).1 with
    | true =>
      rw [hstored] at hput
      simp [openSession, hcreate, hc, hput]
    | false =>
      rw [hstored] at hput
      simp [openSession, hcreate, hc, hput]

theorem keepInSession_stays (hstore : store.Prompt view) (id : SessionId) (c : SecurityContext) (visit : Visit)
    (s : σ) : ∃ t, (keepInSession store id c (visit, s)).2 = (visit, t) ∧ (view s).Stays (view t) := by
  cases hc : c.isPersistable with
  | true =>
    obtain ⟨t, hput, hview⟩ := (hstore.put id c).apply s
    refine ⟨t, by simp [keepInSession, hc, hput], ?_⟩
    rw [hview]
    exact (view s).stays_put id c
  | false =>
    obtain ⟨t, hclear, hview⟩ := (hstore.clear id).apply s
    refine ⟨t, by simp [keepInSession, hc, hclear], ?_⟩
    rw [hview]
    exact (view s).stays_clear id

theorem keepWithoutSession_counts (hstore : store.Prompt view) (allow always : Bool) (c : SecurityContext)
    (visit : Visit) {s : σ} (hd : (view s).Distinct) (hdead : ∀ id, visit.session = some id → ¬(view s).Alive id) :
    ∃ visit' t, (keepWithoutSession store allow always c (visit, s)).2 = (visit', t) ∧
      (view s).Saves allow always c visit visit' (view t) := by
  unfold keepWithoutSession
  cases hwant : !c.isPersistable && !always with
  | true =>
    have hnothing : c.isPersistable = false ∧ always = false := by simpa using hwant
    exact ⟨visit, s, rfl, .stays (.refl _) (.inr (.inr hnothing))⟩
  | false =>
    have hsome : c.isPersistable = true ∨ always = true := by
      cases hc : c.isPersistable
      · simpa [hc] using hwant
      · exact .inl rfl
    cases allow with
    | false => exact ⟨visit, s, rfl, .stays (.refl _) (.inr (.inl rfl))⟩
    | true =>
      obtain ⟨t, hopen, hadds⟩ := openSession_adds hstore c visit hd
      exact ⟨_, t, hopen, .opens hadds hdead rfl hsome⟩

theorem save_counts (hstore : store.Prompt view) (allow always : Bool) (c : SecurityContext) (visit : Visit) {s : σ}
    (hd : (view s).Distinct) :
    ∃ visit' t, ((inSession store allow always).save c (visit, s)).2 = (visit', t) ∧
      (view s).Saves allow always c visit visit' (view t) := by
  cases hid : visit.session with
  | none =>
    obtain ⟨visit', t, hkeep, hsaves⟩ := keepWithoutSession_counts hstore allow always c visit hd (by simp [hid])
    exact ⟨visit', t, by simp [inSession, hid, hkeep], hsaves⟩
  | some id =>
    obtain ⟨u, hlive, hview⟩ := (hstore.isLive id).apply s
    have hstays : (view s).Stays (view u) := by
      rw [hview]
      exact (view s).stays_touch id
    rw [Sessions.touch_fst] at hlive
    cases halive : ((view s).live? id).isSome with
    | true =>
      rw [halive] at hlive
      obtain ⟨t, hkeep, hstays'⟩ := keepInSession_stays hstore id c visit u
      refine ⟨visit, t, by simp [inSession, hid, hlive, hkeep], ?_⟩
      exact .stays (hstays.trans hstays') (.inl ⟨id, hid, halive⟩)
    | false =>
      rw [halive] at hlive
      have hdead : ∀ i, visit.session = some i → ¬(view u).Alive i := by
        intro i hi
        rw [hid, Option.some.injEq] at hi
        rw [hstays.alive, ← hi]
        simp [Sessions.Alive, halive]
      obtain ⟨visit', t, hkeep, hsaves⟩ :=
        keepWithoutSession_counts hstore allow always c visit (hstays.distinct hd) hdead
      refine ⟨visit', t, by simp [inSession, hid, hlive, hkeep], ?_⟩
      cases hsaves with
      | stays h hwhy =>
        refine .stays (hstays.trans h) (hwhy.imp_left ?_)
        rintro ⟨i, hi, hlives⟩
        exact absurd hlives (hdead i hi)
      | opens h _ hallow hwant =>
        rw [hstays.supply, hstays.issued]
        exact .opens (hstays.adds h) (fun i hi hlives => hdead i hi ((hstays.alive i).2 hlives)) hallow hwant

theorem rotate_counts (hstore : store.Prompt view) (allow always : Bool) (visit : Visit) (s : σ) :
    ∃ visit' t, ((inSession store allow always).rotate (visit, s)).2 = (visit', t) ∧
      (view s).Rotates visit visit' (view t) := by
  cases hid : visit.session with
  | none => exact ⟨visit, s, by simp [inSession, hid], .stays (.refl _) (by simp [hid])⟩
  | some id =>
    obtain ⟨t, hrotate, hview⟩ := (hstore.rotate id).apply s
    rw [Sessions.rotate_fst] at hrotate
    cases hlive : (view s).live? id with
    | none =>
      have hdead : ¬(view s).Alive id := by simp [Sessions.Alive, hlive]
      rw [hlive, Option.map_none] at hrotate
      refine ⟨visit, t, by simp [inSession, hid, hrotate], .stays ?_ ?_⟩
      · rw [hview]
        exact Sessions.stays_rotate hdead
      · intro i hi
        rw [hid, Option.some.injEq] at hi
        exact hi ▸ hdead
    | some session =>
      have halive : (view s).Alive id := by simp [Sessions.Alive, hlive]
      rw [hlive, Option.map_some] at hrotate
      refine ⟨_, t, by simp [inSession, hid, hrotate], .renames hid ?_⟩
      rw [hview]
      exact Sessions.renames_rotate halive

end Repository

end Visits

end Portcullis
