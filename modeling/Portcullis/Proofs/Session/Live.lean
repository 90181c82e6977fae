import Mathlib.Data.List.Nodup
import Portcullis.Session.Memory

/-!
# The sessions that ids resolve to

Of the sessions held in memory only the live ones can be reached. `Sessions.live?` is the live session of an id, and
every operation of the store is described by what it does to `live?`:

* `touch_fst`, `live?_touch`: a use finds the live session, and its life starts over;
* `live?_purge`: sweeping changes nothing;
* `create_fst`, `live?_create`, `fetch_fst`, `live?_fetch`, `put_fst`, `live?_put`, `live?_clear`, `live?_erase`,
  `rotate_fst`, `live?_rotate`: the calls;
* `live?_wait`: time takes away the sessions whose time has come, and nothing else.

A sweep may drop one of several entries of an id, so the equations of `purge` and `create` ask for `Distinct` ids, which
every operation keeps.
-/

namespace Portcullis.Sessions

variable {s : Sessions} {id other : SessionId}

/-- The live session of an id. -/
def live? (s : Sessions) (id : SessionId) : Option Session :=
  (s.find? id).filter fun session => !s.isDead session

/-- What a client reaches that holds this session id, or none: the context of that session if it is alive, else the
empty one. -/
def reach (s : Sessions) (session : Option SessionId) : SecurityContext :=
  ((session.bind s.live?).bind (·.context)).getD .empty

/-- The ids under which sessions are held. -/
def ids (s : Sessions) : List SessionId :=
  s.held.map Prod.fst

/-- No id is held twice. -/
def Distinct (s : Sessions) : Prop :=
  s.ids.Nodup

/-! ## Looking up -/

theorem find?_erase (s : Sessions) (id other : SessionId) :
    (s.erase id).find? other = if other = id then none else s.find? other := by
  unfold find? erase
  induction s.held with
  | nil => simp
  | cons entry rest ih =>
    obtain ⟨i, session⟩ := entry
    by_cases hi : i = id
    · subst hi
      by_cases ho : other = i
      · simpa [ho] using ih
      · have hb : (other == i) = false := by simpa using ho
        simpa [List.lookup_cons, hb, ho] using ih
    · by_cases ho : other = i
      · subst ho
        simp [hi]
      · have hb : (other == i) = false := by simpa using ho
        simpa [List.lookup_cons, hb, hi] using ih

theorem find?_insert (s : Sessions) (id other : SessionId) (session : Session) :
    (s.insert id session).find? other = if other = id then some session else s.find? other := by
  by_cases ho : other = id
  · simp [find?, insert, ho]
  · have hb : (other == id) = false := by simpa using ho
    have := find?_erase s id other
    simpa [find?, insert, List.lookup_cons, hb, ho] using this

theorem find?_modify (s : Sessions) (id other : SessionId) (f : Session → Session) :
    (s.modify id f).find? other = if other = id then (s.find? other).map f else s.find? other := by
  unfold find? modify
  induction s.held with
  | nil => simp
  | cons entry rest ih =>
    obtain ⟨i, session⟩ := entry
    by_cases ho : other = i
    · subst ho
      by_cases hi : other = id <;> simp [hi]
    · have hb : (other == i) = false := by simpa using ho
      by_cases hi : i = id
      · subst hi
        simpa [List.lookup_cons, hb, ho] using ih
      · simpa [List.lookup_cons, hb, hi] using ih

theorem mem_held_of_find? {session : Session} (h : s.find? id = some session) : (id, session) ∈ s.held := by
  unfold find? at h
  generalize s.held = held at h
  induction held with
  | nil => simp at h
  | cons entry rest ih =>
    obtain ⟨i, x⟩ := entry
    by_cases hi : id = i
    · subst hi
      simp at h
      simp [h]
    · have hb : (id == i) = false := by simpa using hi
      rw [List.lookup_cons, hb] at h
      exact List.mem_cons_of_mem _ (ih h)

theorem mem_ids_of_find? {session : Session} (h : s.find? id = some session) : id ∈ s.ids :=
  List.mem_map_of_mem (mem_held_of_find? h)

/-- With distinct ids, nothing takes the place of an entry that is dropped. -/
theorem lookup_filter {p : Session → Bool} {held : List (SessionId × Session)} (hd : (held.map Prod.fst).Nodup)
    (id : SessionId) : (held.filter fun entry => p entry.2).lookup id = (held.lookup id).filter p := by
  induction held with
  | nil => simp
  | cons entry rest ih =>
    obtain ⟨i, session⟩ := entry
    simp only [List.map_cons, List.nodup_cons] at hd
    by_cases hi : id = i
    · subst hi
      cases hp : p session with
      | true => simp [hp, Option.filter_some]
      | false =>
        have hn : rest.lookup id = none := by
          rw [List.lookup_eq_none_iff]
          intro entry he
          have hne : id ≠ entry.1 := fun h => hd.1 (List.mem_map.mpr ⟨entry, he, h.symm⟩)
          simpa using hne
        simp [hp, ih hd.2, hn, Option.filter_some]
    · have hb : (id == i) = false := by simpa using hi
      cases hp : p session <;> simp [hp, List.lookup_cons, hb, ih hd.2]

/-! ## Distinct ids -/

theorem ids_erase (s : Sessions) (id : SessionId) : (s.erase id).ids = s.ids.filter (· != id) := by
  simp [ids, erase, List.filter_map, Function.comp_def]

theorem ids_insert (s : Sessions) (id : SessionId) (session : Session) :
    (s.insert id session).ids = id :: s.ids.filter (· != id) := by
  rw [← ids_erase]
  rfl

@[simp] theorem ids_modify (s : Sessions) (id : SessionId) (f : Session → Session) : (s.modify id f).ids = s.ids := by
  simp only [ids, modify, List.map_map]
  apply List.map_congr_left
  rintro ⟨i, session⟩ _
  by_cases hi : i = id <;> simp [hi]

theorem ids_purge_sublist (s : Sessions) : s.purge.ids.Sublist s.ids :=
  List.filter_sublist.map Prod.fst

theorem Distinct.erase (hd : s.Distinct) (id : SessionId) : (s.erase id).Distinct := by
  unfold Distinct
  rw [ids_erase]
  exact List.Nodup.filter _ hd

theorem Distinct.insert (hd : s.Distinct) (id : SessionId) (session : Session) : (s.insert id session).Distinct := by
  unfold Distinct
  rw [ids_insert, List.nodup_cons]
  exact ⟨by simp, List.Nodup.filter _ hd⟩

theorem Distinct.modify (hd : s.Distinct) (id : SessionId) (f : Session → Session) : (s.modify id f).Distinct := by
  unfold Distinct
  rw [ids_modify]
  exact hd

theorem Distinct.purge (hd : s.Distinct) : s.purge.Distinct :=
  hd.sublist s.ids_purge_sublist

/-! ## Life and death -/

/-- A session that has just been used is alive. -/
theorem isDead_of_lastUsed {session : Session} (h : session.lastUsed = s.now) : s.isDead session = false := by
  cases ht : s.timeout <;> simp [isDead, h, ht]

/-- The dead stay dead. -/
theorem isDead_wait {session : Session} (h : s.isDead session = true) (ms : Nat) :
    (s.wait ms).isDead session = true := by
  cases ht : s.timeout with
  | none => simp [isDead, ht] at h
  | some limit =>
    simp only [isDead, ht, Option.any_some, decide_eq_true_eq, wait] at h ⊢
    omega

theorem live?_eq_some_iff {session : Session} :
    s.live? id = some session ↔ s.find? id = some session ∧ s.isDead session = false := by
  simp [live?, Option.filter_eq_some_iff]

theorem mem_ids_of_live (h : (s.live? id).isSome = true) : id ∈ s.ids := by
  obtain ⟨session, hsession⟩ := Option.isSome_iff_exists.1 h
  exact mem_ids_of_find? (live?_eq_some_iff.1 hsession).1

theorem live?_wait (s : Sessions) (ms : Nat) (id : SessionId) :
    (s.wait ms).live? id = (s.live? id).filter fun session => !(s.wait ms).isDead session := by
  have hf : (s.wait ms).find? id = s.find? id := rfl
  cases hs : s.find? id with
  | none => simp [live?, hf, hs]
  | some session =>
    cases hd : s.isDead session with
    | true => simp [live?, hf, hs, hd, isDead_wait hd, Option.filter_some]
    | false => simp [live?, hf, hs, hd, Option.filter_some]

theorem live?_erase (s : Sessions) (id other : SessionId) :
    (s.erase id).live? other = if other = id then none else s.live? other := by
  have hd : (s.erase id).isDead = s.isDead := rfl
  by_cases ho : other = id <;> simp [live?, find?_erase, hd, ho]

theorem live?_insert {session : Session} (h : s.isDead session = false) (id other : SessionId) :
    (s.insert id session).live? other = if other = id then some session else s.live? other := by
  have hd : (s.insert id session).isDead = s.isDead := rfl
  by_cases ho : other = id <;> simp [live?, find?_insert, hd, ho, h, Option.filter_some]

/-- A change that may revive a session but kills none; here it only meets the living. -/
theorem live?_modify {session : Session} (hs : s.live? id = some session) {f : Session → Session}
    (hf : s.isDead (f session) = false) (other : SessionId) :
    (s.modify id f).live? other = if other = id then some (f session) else s.live? other := by
  have hd : (s.modify id f).isDead = s.isDead := rfl
  obtain ⟨hfind, -⟩ := live?_eq_some_iff.1 hs
  by_cases ho : other = id
  · subst ho
    simp [live?, find?_modify, hd, hfind, hf, Option.filter_some]
  · simp [live?, find?_modify, hd, ho]

theorem live?_purge (hd : s.Distinct) (id : SessionId) : s.purge.live? id = s.live? id := by
  have hf : s.purge.find? id = s.live? id := lookup_filter (p := fun session => !s.isDead session) hd id
  have hp : s.purge.isDead = s.isDead := rfl
  simp [live?, hf, hp, Option.filter_filter]

/-! ## The use of a session -/

theorem touch_fst (s : Sessions) (id : SessionId) : (s.touch id).1 = (s.live? id).isSome := by
  unfold touch live?
  cases s.find? id with
  | none => simp
  | some session => cases hd : s.isDead session <;> simp [hd, Option.filter_some]

theorem live?_touch (s : Sessions) (id other : SessionId) :
    (s.touch id).2.live? other =
      if other = id then (s.live? id).map ({ · with lastUsed := s.now }) else s.live? other := by
  unfold touch
  cases hs : s.find? id with
  | none =>
    by_cases ho : other = id
    · simp [live?, hs, ho]
    · simp [ho]
  | some session =>
    cases hd : s.isDead session with
    | true =>
      have hl : s.live? id = none := by simp [live?, hs, hd, Option.filter_some]
      simp [live?_erase, hl, hd]
    | false =>
      have hl : s.live? id = some session := live?_eq_some_iff.2 ⟨hs, hd⟩
      simp only [hd, Bool.false_eq_true, if_false, hl, Option.map_some]
      exact live?_modify hl (isDead_of_lastUsed rfl) other

/-- A use changes the sessions that are held and nothing else. -/
theorem touch_snd (s : Sessions) (id : SessionId) : ∃ held, (s.touch id).2 = { s with held := held } := by
  unfold touch
  cases s.find? id with
  | none => exact ⟨s.held, rfl⟩
  | some session => cases hd : s.isDead session <;> exact ⟨_, by simp only [hd]; rfl⟩

@[simp] theorem touch_now (s : Sessions) (id : SessionId) : (s.touch id).2.now = s.now := by
  obtain ⟨held, h⟩ := s.touch_snd id
  rw [h]

@[simp] theorem touch_supply (s : Sessions) (id : SessionId) : (s.touch id).2.supply = s.supply := by
  obtain ⟨held, h⟩ := s.touch_snd id
  rw [h]

@[simp] theorem touch_timeout (s : Sessions) (id : SessionId) : (s.touch id).2.timeout = s.timeout := by
  obtain ⟨held, h⟩ := s.touch_snd id
  rw [h]

@[simp] theorem touch_issued (s : Sessions) (id : SessionId) : (s.touch id).2.issued = s.issued := by
  obtain ⟨held, h⟩ := s.touch_snd id
  rw [h]

theorem Distinct.touch (hd : s.Distinct) (id : SessionId) : (s.touch id).2.Distinct := by
  unfold Sessions.touch
  cases s.find? id with
  | none => exact hd
  | some session =>
    cases hs : s.isDead session with
    | true => simpa [hs] using hd.erase id
    | false => simpa [hs] using hd.modify id _

/-- A use holds no id that was not held. -/
theorem ids_touch (s : Sessions) (id : SessionId) : (s.touch id).2.ids ⊆ s.ids := by
  unfold touch
  cases s.find? id with
  | none => exact fun _ h => h
  | some session =>
    cases hs : s.isDead session with
    | true =>
      simp only [hs, if_true, ids_erase]
      exact List.filter_subset_self _
    | false => simp [hs]

/-- The two outcomes of a use: a live session, whose life starts over, or none. -/
theorem touch_cases (s : Sessions) (id : SessionId) :
    (∃ session, s.live? id = some session ∧ s.touch id = (true, (s.touch id).2) ∧
      (s.touch id).2.live? id = some { session with lastUsed := s.now }) ∨
    (s.live? id = none ∧ s.touch id = (false, (s.touch id).2)) := by
  have h1 := s.touch_fst id
  have h2 := s.live?_touch id id
  cases hl : s.live? id with
  | none =>
    rw [hl] at h1
    exact .inr ⟨rfl, Prod.ext h1 rfl⟩
  | some session =>
    rw [hl] at h1
    exact .inl ⟨session, rfl, Prod.ext h1 rfl, by simpa [hl] using h2⟩

/-! ## The calls -/

theorem fetch_fst (s : Sessions) (id : SessionId) : (s.fetch id).1 = (s.live? id).bind (·.context) := by
  unfold fetch
  rcases s.touch_cases id with ⟨session, hl, ht, hl'⟩ | ⟨hl, ht⟩
  · rw [ht]
    simp [(live?_eq_some_iff.1 hl').1, hl]
  · rw [ht, hl]
    rfl

@[simp] theorem fetch_snd (s : Sessions) (id : SessionId) : (s.fetch id).2 = (s.touch id).2 := by
  unfold fetch
  split <;> simp_all

theorem put_fst (s : Sessions) (id : SessionId) (c : SecurityContext) : (s.put id c).1 = (s.live? id).isSome := by
  rw [← touch_fst]
  unfold put
  split <;> simp_all

theorem put_snd (s : Sessions) (id : SessionId) (c : SecurityContext) :
    (s.put id c).2 = if (s.live? id).isSome then (s.touch id).2.modify id ({ · with context := some c })
      else (s.touch id).2 := by
  rw [← touch_fst]
  unfold put
  split <;> simp_all

/-- Putting changes the sessions that are held and nothing else. -/
theorem exists_put (s : Sessions) (id : SessionId) (c : SecurityContext) :
    ∃ held, (s.put id c).2 = { s with held := held } := by
  obtain ⟨held, h⟩ := s.touch_snd id
  rw [put_snd, h]
  split <;> exact ⟨_, rfl⟩

theorem live?_put (s : Sessions) (id other : SessionId) (c : SecurityContext) :
    (s.put id c).2.live? other =
      if other = id then (s.live? id).map fun _ => { context := some c, lastUsed := s.now } else s.live? other := by
  have hu := s.live?_touch id other
  rw [put_snd]
  rcases s.touch_cases id with ⟨session, hl, -, hl'⟩ | ⟨hl, -⟩
  · rw [hl, Option.isSome_some, if_pos rfl, live?_modify hl' (isDead_of_lastUsed (by simp)), hu]
    by_cases ho : other = id <;> simp [ho]
  · rw [hl] at hu ⊢
    exact hu

/-- Taking the context away is no use of the session: its life goes on as it was. -/
theorem live?_clear (s : Sessions) (id other : SessionId) :
    (s.clear id).live? other =
      if other = id then (s.live? id).map ({ · with context := none }) else s.live? other := by
  have hf : (s.clear id).find? other = _ := find?_modify s id other _
  have hd : (s.clear id).isDead = s.isDead := rfl
  by_cases ho : other = id
  · subst ho
    cases hs : s.find? other with
    | none => simp [live?, hf, hs]
    | some session =>
      have hc : s.isDead { session with context := none } = s.isDead session := rfl
      cases hx : s.isDead session <;> simp [live?, hf, hd, hs, hc, hx, Option.filter_some]
  · simp [live?, hf, hd, ho]

theorem live?_countCreate (hd : s.Distinct) (id : SessionId) : s.countCreate.live? id = s.live? id := by
  unfold countCreate
  split
  · exact live?_purge hd id
  · rfl

theorem Distinct.countCreate (hd : s.Distinct) : s.countCreate.Distinct := by
  unfold Sessions.countCreate
  split
  · exact hd.purge
  · exact hd

theorem ids_countCreate (s : Sessions) : s.countCreate.ids ⊆ s.ids := by
  unfold countCreate
  split
  · exact s.ids_purge_sublist.subset
  · exact fun _ h => h

/-- The sweep that may come with a new session touches neither the clock nor the supply. -/
theorem countCreate_eq (s : Sessions) : ∃ held, s.countCreate = { s with held := held, created := s.created + 1 } := by
  unfold countCreate
  split <;> exact ⟨_, rfl⟩

theorem create_fst (s : Sessions) : s.create.1 = s.supply s.issued := by
  obtain ⟨held, h⟩ := s.countCreate_eq
  simp [create, issue, h]

theorem create_snd (s : Sessions) :
    s.create.2 = { s.countCreate with issued := s.issued + 1 }.insert (s.supply s.issued) { lastUsed := s.now } := by
  obtain ⟨held, h⟩ := s.countCreate_eq
  simp [create, issue, h]

/-- Opening a session changes, besides the sessions that are held, the two counts. -/
theorem exists_create (s : Sessions) :
    ∃ held, s.create.2 = { s with held := held, created := s.created + 1, issued := s.issued + 1 } := by
  obtain ⟨held, h⟩ := s.countCreate_eq
  exact ⟨_, by rw [create_snd, h]; rfl⟩

theorem live?_create (hd : s.Distinct) (id : SessionId) :
    s.create.2.live? id = if id = s.supply s.issued then some { lastUsed := s.now } else s.live? id := by
  have hn : s.countCreate.now = s.now := by
    obtain ⟨held, h⟩ := s.countCreate_eq
    rw [h]
  rw [create_snd, live?_insert (isDead_of_lastUsed hn.symm), ← live?_countCreate hd]
  rfl

theorem rotate_fst (s : Sessions) (id : SessionId) :
    (s.rotate id).1 = (s.live? id).map fun _ => s.supply s.issued := by
  unfold rotate
  rcases s.touch_cases id with ⟨session, hl, ht, hl'⟩ | ⟨hl, ht⟩
  · rw [ht]
    simp [(live?_eq_some_iff.1 hl').1, hl, issue, erase]
  · rw [ht, hl]
    rfl

/-- A rotation that finds its session uses it, takes it away and puts it back under the next id of the supply. -/
theorem rotate_snd (s : Sessions) (id : SessionId) :
    (s.rotate id).2 =
      match s.live? id with
      | none => (s.touch id).2
      | some session =>
        { (s.touch id).2.erase id with issued := s.issued + 1 }.insert (s.supply s.issued)
          { session with lastUsed := s.now } := by
  unfold rotate
  rcases s.touch_cases id with ⟨session, hl, ht, hl'⟩ | ⟨hl, ht⟩
  · rw [ht]
    simp [(live?_eq_some_iff.1 hl').1, hl, issue, erase]
  · rw [ht, hl]

/-- A rotation changes, besides the sessions that are held, how many ids have been issued. -/
theorem exists_rotate (s : Sessions) (id : SessionId) :
    ∃ held, (s.rotate id).2 = { s with held := held, issued := s.issued + if (s.live? id).isSome then 1 else 0 } := by
  obtain ⟨held, h⟩ := s.touch_snd id
  rw [rotate_snd, h]
  cases s.live? id <;> exact ⟨_, rfl⟩

theorem live?_rotate (s : Sessions) (id other : SessionId) :
    (s.rotate id).2.live? other =
      match s.live? id with
      | none => s.live? other
      | some session =>
        if other = s.supply s.issued then some { session with lastUsed := s.now }
        else if other = id then none else s.live? other := by
  have hu := s.live?_touch id other
  rw [rotate_snd]
  cases hl : s.live? id with
  | none =>
    simp only [hu, hl, Option.map_none]
    split
    · rename_i ho
      rw [ho, hl]
    · rfl
  | some session =>
    have he : ({ (s.touch id).2.erase id with issued := s.issued + 1 } : Sessions).live? other = _ :=
      (s.touch id).2.live?_erase id other
    simp only
    rw [live?_insert (isDead_of_lastUsed (by simp [erase])), he, hu]
    by_cases ho : other = id <;> simp [ho]

theorem Distinct.put (hd : s.Distinct) (id : SessionId) (c : SecurityContext) : (s.put id c).2.Distinct := by
  rw [put_snd]
  split
  · exact (hd.touch id).modify id _
  · exact hd.touch id

theorem Distinct.create (hd : s.Distinct) : s.create.2.Distinct := by
  rw [create_snd]
  exact Distinct.insert hd.countCreate _ _

theorem Distinct.rotate (hd : s.Distinct) (id : SessionId) : (s.rotate id).2.Distinct := by
  rw [rotate_snd]
  cases s.live? id with
  | none => exact hd.touch id
  | some session => exact Distinct.insert ((hd.touch id).erase id) _ _

end Portcullis.Sessions
