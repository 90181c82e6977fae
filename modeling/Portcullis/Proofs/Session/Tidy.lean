import Portcullis.Proofs.Session.Contexts

/-!
# Sessions without empty contexts

A session may hold the empty context, and then it tells a request no more than one that holds none. `Sessions.tidy`
reads the one as the other. Everything that is done to sessions can be done to tidy ones as well, with the same results
(`Sessions.Tidily`).

* `Sessions.tidily_touch` and the like: the operations, one by one.
* `Sessions.Sound`: no contexts are held but such as are worth keeping and, where that is allowed, the empty one.
* `Sessions.Idle`: keeping a context would change nothing, because the session holds it already;
  `Sessions.Sound.idle_fetch` for the context that has just been looked up.
-/

namespace Portcullis

theorem SecurityContext.isEmpty_of_isPersistable {c : SecurityContext} (h : c.isPersistable = true) :
    c.isEmpty = false := by
  rcases c with ⟨_ | a⟩
  · cases h
  · rfl

/-- The session, its empty context read as none. -/
def Session.tidy (x : Session) : Session :=
  { x with context := x.context.filter (!·.isEmpty) }

theorem Session.found_tidy (x : Session) : x.tidy.context.getD .empty = x.context.getD .empty := by
  rcases x with ⟨_ | ⟨_ | a⟩, t⟩ <;> rfl

theorem Session.tidy_hold {c : SecurityContext} (h : c.isEmpty = false) (t : Nat) :
    Session.tidy ⟨some c, t⟩ = ⟨some c, t⟩ := by
  simp [tidy, Option.filter_some, h]

namespace Sessions

variable {s t : Sessions} {id : SessionId} {α : Type}

/-- The sessions, the empty contexts read as none. -/
def tidy (s : Sessions) : Sessions :=
  { s with held := s.held.map fun entry => (entry.1, entry.2.tidy) }

@[simp] theorem tidy_now (s : Sessions) : s.tidy.now = s.now := rfl

@[simp] theorem isDead_tidy (s : Sessions) (x : Session) : s.tidy.isDead x.tidy = s.isDead x := rfl

@[simp] theorem find?_tidy (s : Sessions) (id : SessionId) : s.tidy.find? id = (s.find? id).map Session.tidy := by
  unfold find? tidy
  induction s.held with
  | nil => rfl
  | cons entry rest ih =>
    obtain ⟨i, x⟩ := entry
    simp only [List.map_cons, List.lookup_cons]
    cases id == i
    · exact ih
    · rfl

@[simp] theorem live?_tidy (s : Sessions) (id : SessionId) : s.tidy.live? id = (s.live? id).map Session.tidy := by
  rw [live?, live?, find?_tidy]
  cases s.find? id with
  | none => rfl
  | some x => cases hd : s.isDead x <;> simp [hd, Option.filter_some]

/-! ## Changes to single sessions -/

theorem tidy_erase (s : Sessions) (id : SessionId) : (s.erase id).tidy = s.tidy.erase id := by
  simp [tidy, erase, List.filter_map, Function.comp_def]

theorem tidy_insert (s : Sessions) (id : SessionId) (x : Session) : (s.insert id x).tidy = s.tidy.insert id x.tidy := by
  have herase : ((s.erase id).held.map fun entry => (entry.1, entry.2.tidy)) = (s.tidy.erase id).held :=
    congrArg held (tidy_erase s id)
  simp only [tidy, insert, List.map_cons, herase]

theorem tidy_modify (s : Sessions) (id : SessionId) {f g : Session → Session} (h : ∀ x, (f x).tidy = g x.tidy) :
    (s.modify id f).tidy = s.tidy.modify id g := by
  simp only [tidy, modify, List.map_map]
  congr 1
  refine List.map_congr_left fun entry _ => ?_
  by_cases hid : entry.1 = id <;> simp [hid, h]

theorem tidy_purge (s : Sessions) : s.purge.tidy = s.tidy.purge := by
  simp only [tidy, purge, List.filter_map]
  rfl

theorem tidy_countCreate (s : Sessions) : s.countCreate.tidy = s.tidy.countCreate := by
  have hcreated : s.tidy.created = s.created := rfl
  simp only [countCreate, hcreated]
  split
  · rw [← tidy_purge]
    rfl
  · rfl

theorem find?_of_mem_held (hd : s.Distinct) {x : Session} (hx : (id, x) ∈ s.held) : s.find? id = some x := by
  obtain ⟨y, hy⟩ : ∃ y, s.find? id = some y := by
    rw [← Option.isSome_iff_exists, ← Option.ne_none_iff_isSome]
    exact fun hnone => not_mem_ids_of_find?_eq_none hnone (List.mem_map_of_mem hx)
  have hsame := List.inj_on_of_nodup_map hd (mem_held_of_find? hy) hx rfl
  rw [hy, (Prod.mk.inj hsame).2]

/-- A change that the session does not show, once its empty context is read as none. -/
theorem tidy_modify_self (hd : s.Distinct) {f : Session → Session}
    (h : ∀ x, s.find? id = some x → (f x).tidy = x.tidy) : (s.modify id f).tidy = s.tidy := by
  simp only [tidy, modify, List.map_map]
  congr 1
  refine List.map_congr_left fun entry hentry => ?_
  simp only [Function.comp_apply]
  split
  · rename_i hid
    rw [h entry.2 (find?_of_mem_held hd (hid ▸ hentry))]
  · rfl

/-! ## The operations -/

/-- What is done to the tidy sessions gives the same result, and the same sessions once these are tidy. -/
def Tidily (f : Sessions → α × Sessions) : Prop :=
  ∀ s, (f s.tidy).1 = (f s).1 ∧ (f s.tidy).2 = (f s).2.tidy

theorem Tidily.congr {f : Sessions → α × Sessions} (h : Tidily f) (hst : s.tidy = t.tidy) :
    (f s).1 = (f t).1 ∧ (f s).2.tidy = (f t).2.tidy := by
  rw [← (h s).1, ← (h t).1, ← (h s).2, ← (h t).2, hst]
  exact ⟨rfl, rfl⟩

theorem tidily_touch (id : SessionId) : Tidily (·.touch id) := by
  intro s
  simp only [touch, find?_tidy]
  cases s.find? id with
  | none => exact ⟨rfl, rfl⟩
  | some x =>
    have hdead : s.tidy.isDead x.tidy = s.isDead x := rfl
    cases hd : s.isDead x with
    | true =>
      rw [hd] at hdead
      simp only [Option.map_some, hdead, hd, if_true]
      exact ⟨trivial, (tidy_erase s id).symm⟩
    | false =>
      rw [hd] at hdead
      simp only [Option.map_some, hdead, hd, Bool.false_eq_true, if_false]
      exact ⟨trivial, (tidy_modify s id (g := ({ · with lastUsed := s.now })) fun _ => rfl).symm⟩

theorem tidily_create : Tidily create := by
  intro s
  simp only [create_fst, create_snd, ← tidy_countCreate]
  exact ⟨rfl, (tidy_insert { s.countCreate with issued := s.issued + 1 } _ { lastUsed := s.now }).symm⟩

theorem tidily_found (id : SessionId) : Tidily fun s => ((s.fetch id).1.getD .empty, (s.fetch id).2) := by
  intro s
  simp only [fetch_fst, fetch_snd, live?_tidy]
  refine ⟨?_, (tidily_touch id s).2⟩
  cases s.live? id with
  | none => rfl
  | some x => exact x.found_tidy

theorem tidily_put (id : SessionId) {c : SecurityContext} (hc : c.isEmpty = false) : Tidily (·.put id c) := by
  intro s
  simp only [put_fst, put_snd, live?_tidy, Option.isSome_map, (tidily_touch id s).2, true_and]
  split
  · exact (tidy_modify _ id fun _ => Session.tidy_hold hc _).symm
  · rfl

theorem tidily_clear (id : SessionId) : Tidily fun s => ((), s.clear id) :=
  fun s => ⟨rfl, (tidy_modify s id (g := ({ · with context := none })) fun _ => rfl).symm⟩

theorem tidily_rotate (id : SessionId) : Tidily (·.rotate id) := by
  intro s
  simp only [rotate_fst, rotate_snd, live?_tidy, (tidily_touch id s).2]
  cases s.live? id with
  | none => exact ⟨rfl, rfl⟩
  | some x =>
    simp only [Option.map_some, ← tidy_erase]
    refine ⟨rfl, ?_⟩
    exact (tidy_insert { (s.touch id).2.erase id with issued := s.issued + 1 } _ { x with lastUsed := s.now }).symm

/-! ## Contexts that are worth keeping -/

section Sound

variable {empties : Prop} {fresh : SessionId} {c : SecurityContext}

/-- The contexts that are held are worth keeping, or empty where that is allowed. -/
structure Sound (empties : Prop) (s : Sessions) : Prop where
  distinct : s.Distinct
  fit : ∀ id c, s.Holds id c → c.isPersistable = true ∨ empties ∧ c = .empty

namespace Sound

theorem sheds (h : s.Sound empties) (hst : s.Sheds t) : t.Sound empties where
  distinct := hst.distinct h.distinct
  fit i c hc := h.fit i c (hst.holds i c hc)

theorem touch (h : s.Sound empties) (id : SessionId) : (s.touch id).2.Sound empties :=
  h.sheds (sheds_touch s id)

theorem create (h : s.Sound empties) : s.create.2.Sound empties where
  distinct := h.distinct.create
  fit i c hc := h.fit i c ((create_opens s).others i c hc)

theorem put (h : s.Sound empties) (id : SessionId) (hc : c.isPersistable = true) : (s.put id c).2.Sound empties := by
  cases hput : (s.put id c).1 with
  | false => exact h.sheds (put_sheds hput).1
  | true =>
    refine ⟨h.distinct.put id c, fun i c' hc' => ?_⟩
    by_cases hi : i = id
    · exact .inl ((put_keeps hput).only c' (hi ▸ hc') ▸ hc)
    · exact h.fit i c' ((put_keeps hput).others i c' hi hc')

theorem rotate (h : s.Sound empties) (id : SessionId) : (s.rotate id).2.Sound empties := by
  cases hrotate : (s.rotate id).1 with
  | none => exact h.sheds (rotate_sheds hrotate).1
  | some fresh =>
    refine ⟨h.distinct.rotate id, fun i c hc => ?_⟩
    by_cases hi : i = fresh
    · exact h.fit id c ((rotate_moves hrotate).moved c (hi ▸ hc))
    · exact h.fit i c ((rotate_moves hrotate).others i c hi hc).2

/-- Where no empty context is held there is nothing to tidy. -/
theorem tidy_eq (h : s.Sound empties) (hempties : ¬ empties) : s.tidy = s := by
  have hentry : ∀ entry ∈ s.held, (entry.1, entry.2.tidy) = entry := by
    rintro ⟨i, _ | c, t⟩ hmem
    · rfl
    · rcases h.fit i c ⟨_, hmem, rfl⟩ with hc | ⟨hallowed, -⟩
      · rw [Session.tidy_hold (SecurityContext.isEmpty_of_isPersistable hc)]
      · exact (hempties hallowed).elim
  rw [tidy, List.map_congr_left hentry, List.map_id']

end Sound

end Sound

/-! ## Keeping what is kept -/

/-- The session, if there is one, has just been used and holds the context if that is worth keeping, and else none:
to keep the context there again would change nothing. -/
def Idle (s : Sessions) (session : Option SessionId) (c : SecurityContext) : Prop :=
  match session.bind s.tidy.find? with
  | none => c.isPersistable = false
  | some x => x = ⟨if c.isPersistable then some c else none, s.now⟩

namespace Idle

variable {session : Option SessionId} {c c' : SecurityContext}

theorem congr (h : s.Idle session c) (hc : c' = c ∨ c.isPersistable = false ∧ c'.isPersistable = false) :
    s.Idle session c' := by
  rcases hc with rfl | ⟨hc, hc'⟩
  · exact h
  · simpa [Idle, hc, hc'] using h

theorem of_tidy (h : s.Idle session c) (hst : s.tidy = t.tidy) : t.Idle session c := by
  have hnow : s.tidy.now = t.tidy.now := congrArg now hst
  rw [tidy_now, tidy_now] at hnow
  rwa [Idle, hst, hnow] at h

theorem tidy_eq (h : s.Idle (some id) c) {x : Session} (hx : s.find? id = some x) :
    x.tidy = ⟨if c.isPersistable then some c else none, s.now⟩ := by
  rwa [Idle, Option.bind_some, find?_tidy, hx] at h

theorem touch (h : s.Idle (some id) c) (hd : s.Distinct) : (s.touch id).2.tidy = s.tidy := by
  unfold Sessions.touch
  cases hx : s.find? id with
  | none => rfl
  | some x =>
    have hused : x.lastUsed = s.now := congrArg Session.lastUsed (h.tidy_eq hx)
    simp only [isDead_of_lastUsed hused, Bool.false_eq_true, if_false]
    refine tidy_modify_self hd fun y hy => ?_
    obtain rfl := Option.some.inj (hx.symm.trans hy)
    rw [← hused]

theorem put (h : s.Idle (some id) c) (hd : s.Distinct) (hc : c.isPersistable = true) :
    (s.put id c).2.tidy = s.tidy := by
  rw [put_snd]
  split
  · refine (tidy_modify_self (hd.touch id) fun x hx => ?_).trans (h.touch hd)
    have hx' := (h.of_tidy (h.touch hd).symm).tidy_eq hx
    have hused : x.lastUsed = (s.touch id).2.now := congrArg Session.lastUsed hx'
    rw [hx', Session.tidy_hold (SecurityContext.isEmpty_of_isPersistable hc), hc, hused]
    rfl
  · exact h.touch hd

theorem clear (h : s.Idle (some id) c) (hd : s.Distinct) (hc : c.isPersistable = false) :
    (s.clear id).tidy = s.tidy := by
  refine tidy_modify_self hd fun x hx => ?_
  have hx' := h.tidy_eq hx
  have hused : x.lastUsed = s.now := congrArg Session.lastUsed hx'
  rw [hx', hc, ← hused]
  rfl

/-- Where the session is gone there was nothing to keep. -/
theorem not_persistable (h : s.Idle (some id) c) (hgone : (s.touch id).1 = false) : c.isPersistable = false := by
  cases hx : s.find? id with
  | none => rwa [Idle, Option.bind_some, find?_tidy, hx] at h
  | some x =>
    have hused : x.lastUsed = s.now := congrArg Session.lastUsed (h.tidy_eq hx)
    have hlive : s.live? id = some x := live?_eq_some_iff.2 ⟨hx, isDead_of_lastUsed hused⟩
    rw [touch_fst, hlive] at hgone
    cases hgone

end Idle

/-- After a session has been looked up, there is nothing to be done about the context that it was found to hold. -/
theorem Sound.idle_fetch {empties : Prop} (h : s.Sound empties) (id : SessionId) :
    (s.fetch id).2.Idle (some id) ((s.fetch id).1.getD .empty) := by
  rw [fetch_fst, fetch_snd, Idle, Option.bind_some, find?_tidy]
  cases hlive : s.live? id with
  | none =>
    have hnone : (s.touch id).2.find? id = none := by
      rw [← Option.not_isSome_iff_eq_none]
      intro hsome
      obtain ⟨x, hx⟩ := Option.isSome_iff_exists.1 hsome
      exact not_mem_ids_of_touch (by rw [touch_fst, hlive]; rfl) (mem_ids_of_find? hx)
    rw [hnone]
    rfl
  | some x =>
    have hfind : (s.touch id).2.find? id = some { x with lastUsed := s.now } := by
      have hlive' := s.live?_touch id id
      rw [if_pos rfl, hlive] at hlive'
      exact (live?_eq_some_iff.1 hlive').1
    simp only [hfind, touch_now, Option.bind_some, Option.map_some]
    rcases x with ⟨_ | c, t⟩
    · rfl
    · have hholds : s.Holds id c := holds_of_offers (offers_iff.2 ⟨_, hlive, rfl⟩)
      rcases h.fit id c hholds with hpersistable | ⟨-, rfl⟩
      · simpa [hpersistable] using Session.tidy_hold (SecurityContext.isEmpty_of_isPersistable hpersistable) s.now
      · rfl

end Sessions

end Portcullis
