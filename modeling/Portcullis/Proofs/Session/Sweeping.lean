import Portcullis.Proofs.Session.Census
import Portcullis.Proofs.Session.Roster
import Portcullis.Proofs.Session.Tidy

/-!
# Dead sessions are swept out

A session that has died is held until it is asked for or swept out, and a sweep comes with every 256th session that is
opened, before that session is there. So dead sessions do not pile up.

* `Sessions.created_after`, `Sessions.unswept_iff`: when the sweeps come.
* `Sessions.size_after_le`: only opening sessions makes the sessions more.
* `Sessions.size_take_of_sweeps`, `Sessions.not_mem_ids_of_sweeps`: a sweep leaves those that live.
* `Sessions.dead_swept_out`: who is dead is never found again, is held no longer once 256 more have been opened, and in
  the meantime there are at most 256 more than have been alive at the last sweep.
-/

namespace Portcullis

/-- How many sessions the event opens. To move a session to a new id is not to open one. -/
def StoreEvent.opens : StoreEvent → Nat
  | .create => 1
  | _ => 0

namespace Sessions

variable {s t : Sessions} {id : SessionId} {e : StoreEvent} {events : List StoreEvent}

/-- How many sessions the events open. -/
def opened : List StoreEvent → Nat
  | [] => 0
  | e :: rest => e.opens + opened rest

@[simp] theorem opened_cons (e : StoreEvent) (events : List StoreEvent) :
    opened (e :: events) = e.opens + opened events := rfl

@[simp] theorem opened_append (first second : List StoreEvent) :
    opened (first ++ second) = opened first + opened second := by
  induction first with
  | nil => exact (Nat.zero_add _).symm
  | cons e rest ih => rw [List.cons_append, opened_cons, opened_cons, ih, Nat.add_assoc]

theorem opened_replicate (n : Nat) : opened (List.replicate n .create) = n := by
  induction n with
  | zero => rfl
  | succ n ih => rw [List.replicate_succ, opened_cons, ih, StoreEvent.opens, Nat.add_comm]

/-- The next session that is opened comes with a sweep. -/
def SweepDue (s : Sessions) : Prop :=
  s.created % sweepEvery = sweepEvery - 1

instance (s : Sessions) : Decidable s.SweepDue :=
  inferInstanceAs (Decidable (_ = _))

/-- The event sweeps out the dead. -/
def Sweeps (s : Sessions) : StoreEvent → Prop
  | .create => s.SweepDue
  | .purge => True
  | _ => False

/-- None of the sessions that are opened on the way comes with a sweep. -/
def Unswept (s : Sessions) (events : List StoreEvent) : Prop :=
  ∀ first second, events = first ++ .create :: second → ¬(timed.after s first).SweepDue

/-! ## When the sweeps come -/

theorem created_take (s : Sessions) (e : StoreEvent) : (timed.take s e).2.created = s.created + e.opens := by
  have htouch (id : SessionId) : (s.touch id).2.created = s.created := by
    obtain ⟨held, h⟩ := s.touch_snd id
    rw [h]
  cases e with
  | create =>
    obtain ⟨held, h⟩ := s.exists_create
    exact congrArg Sessions.created h
  | isLive id => exact htouch id
  | fetch id =>
    show (s.fetch id).2.created = _
    rw [fetch_snd]
    exact htouch id
  | put id c =>
    obtain ⟨held, h⟩ := s.exists_put id c
    show (s.put id c).2.created = _
    rw [h]
    rfl
  | rotate id =>
    obtain ⟨held, h⟩ := s.exists_rotate id
    show (s.rotate id).2.created = _
    rw [h]
    rfl
  | clear id | invalidate id | purge | wait ms => rfl

theorem created_after (s : Sessions) (events : List StoreEvent) :
    (timed.after s events).created = s.created + opened events := by
  induction events generalizing s with
  | nil => rfl
  | cons e rest ih =>
    rw [TimedStore.after, ih, created_take, opened_cons, Nat.add_assoc]

/-- No sweep comes before the 256th session after the last one. -/
theorem unswept_iff : s.Unswept events ↔ s.created % sweepEvery + opened events < sweepEvery := by
  constructor
  · intro h
    induction events generalizing s with
    | nil => exact Nat.mod_lt _ (by decide)
    | cons e rest ih =>
      have hrest : (timed.take s e).2.Unswept rest := fun first second heq =>
        h (e :: first) second (by rw [heq, List.cons_append])
      have hlt := ih hrest
      rw [created_take] at hlt
      rw [opened_cons]
      cases e with
      | create =>
        have hdue : ¬s.created % 256 = 255 := h [] rest rfl
        simp only [StoreEvent.opens, sweepEvery] at hlt ⊢
        omega
      | _ => simpa only [StoreEvent.opens, Nat.add_zero, Nat.zero_add] using hlt
  · rintro h first second rfl hdue
    rw [SweepDue, created_after] at hdue
    simp only [opened_append, opened_cons, StoreEvent.opens, sweepEvery] at h hdue
    omega

/-! ## How many are held -/

theorem size_erase_le (s : Sessions) (id : SessionId) : (s.erase id).size ≤ s.size :=
  List.length_filter_le _ _

theorem size_erase_lt (h : id ∈ s.ids) : (s.erase id).size < s.size := by
  obtain ⟨entry, hentry, rfl⟩ := List.mem_map.1 h
  exact List.length_filter_lt_length_iff_exists.2 ⟨entry, hentry, by simp⟩

theorem size_insert_le (s : Sessions) (id : SessionId) (session : Session) : (s.insert id session).size ≤ s.size + 1 :=
  Nat.succ_le_succ (s.size_erase_le id)

@[simp] theorem size_modify (s : Sessions) (id : SessionId) (f : Session → Session) :
    (s.modify id f).size = s.size :=
  List.length_map _

theorem size_touch_le (s : Sessions) (id : SessionId) : (s.touch id).2.size ≤ s.size := by
  unfold touch
  cases s.find? id with
  | none => exact Nat.le_refl _
  | some session =>
    cases hd : s.isDead session with
    | true => simpa [hd] using s.size_erase_le id
    | false => simp [hd]

theorem size_put_le (s : Sessions) (id : SessionId) (c : SecurityContext) : (s.put id c).2.size ≤ s.size := by
  have htouch := s.size_touch_le id
  rw [put_snd]
  split
  · rw [size_modify]
    exact htouch
  · exact htouch

/-- A session that is moved to a new id is held once before and after. -/
theorem size_rotate_le (s : Sessions) (id : SessionId) : (s.rotate id).2.size ≤ s.size := by
  have htouch := s.size_touch_le id
  rw [rotate_snd]
  rcases s.touch_cases id with ⟨session, hl, -, hl'⟩ | ⟨hl, -⟩
  · have hmem : id ∈ (s.touch id).2.ids := mem_ids_of_live (by rw [hl', Option.isSome_some])
    have hout := size_erase_lt hmem
    have hin := size_insert_le { (s.touch id).2.erase id with issued := s.issued + 1 } (s.supply s.issued)
      { session with lastUsed := s.now }
    rw [hl]
    exact Nat.le_trans hin (Nat.le_trans hout htouch)
  · rw [hl]
    exact htouch

/-- Of the ids that are held a sweep leaves those that are alive. -/
theorem mem_ids_purge (hd : s.Distinct) : id ∈ s.purge.ids ↔ s.Alive id := by
  constructor
  · intro h
    obtain ⟨⟨i, session⟩, hentry, rfl⟩ := List.mem_map.1 h
    have hlive : s.purge.live? i = some session := by
      refine live?_eq_some_iff.2 ⟨find?_of_mem_held hd.purge hentry, ?_⟩
      have halive : (!s.isDead session) = true := (List.mem_filter.1 hentry).2
      show s.isDead session = false
      simpa using halive
    rw [live?_purge hd] at hlive
    exact Option.isSome_of_eq_some hlive
  · intro h
    refine mem_ids_of_live ?_
    rw [live?_purge hd]
    exact h

theorem size_purge (hd : s.Distinct) : s.purge.size = s.population := by
  have hids : s.purge.ids.toFinset = s.liveIds := by
    ext id
    rw [List.mem_toFinset, mem_ids_purge hd, mem_liveIds]
  rw [population, ← hids, List.toFinset_card_of_nodup hd.purge, ids, List.length_map, size]

theorem size_create_le (s : Sessions) : s.create.2.size ≤ s.countCreate.size + 1 := by
  rw [create_snd]
  exact size_insert_le _ _ _

theorem countCreate_of_due (h : s.SweepDue) : s.countCreate = { s.purge with created := s.created + 1 } := by
  have hdue : s.created % sweepEvery = sweepEvery - 1 := h
  unfold countCreate
  rw [if_pos hdue]

theorem size_purge_le (s : Sessions) : s.purge.size ≤ s.size :=
  List.length_filter_le _ _

theorem size_countCreate_le (s : Sessions) : s.countCreate.size ≤ s.size := by
  unfold countCreate
  split
  · exact s.size_purge_le
  · exact Nat.le_refl _

/-- Only opening a session makes the sessions more. -/
theorem size_take_le (s : Sessions) (e : StoreEvent) : (timed.take s e).2.size ≤ s.size + e.opens := by
  cases e with
  | create => exact Nat.le_trans s.size_create_le (Nat.succ_le_succ s.size_countCreate_le)
  | isLive id => exact s.size_touch_le id
  | fetch id =>
    show (s.fetch id).2.size ≤ _
    rw [fetch_snd]
    exact s.size_touch_le id
  | put id c => exact s.size_put_le id c
  | clear id => exact Nat.le_of_eq (s.size_modify id _)
  | invalidate id => exact s.size_erase_le id
  | rotate id => exact s.size_rotate_le id
  | purge => exact s.size_purge_le
  | wait ms => exact Nat.le_refl _

theorem size_after_le (s : Sessions) (events : List StoreEvent) :
    (timed.after s events).size ≤ s.size + opened events := by
  induction events generalizing s with
  | nil => exact Nat.le_refl _
  | cons e rest ih =>
    have hstep := s.size_take_le e
    have hrest := ih (timed.take s e).2
    rw [TimedStore.after, opened_cons]
    omega

/-! ## What a sweep leaves -/

theorem size_take_of_sweeps (hd : s.Distinct) (h : s.Sweeps e) :
    (timed.take s e).2.size ≤ s.population + e.opens := by
  rw [← size_purge hd]
  cases e with
  | create =>
    have hle := s.size_create_le
    rw [countCreate_of_due h] at hle
    exact hle
  | purge => exact Nat.le_refl _
  | isLive | fetch | put | clear | invalidate | rotate | wait => exact h.elim

/-- An id is held after an event if it has been held before, or if the event issues it. -/
theorem mem_ids_of_take (h : id ∈ (timed.take s e).2.ids) : id ∈ s.ids ∨ (timed.take s e).1 = .id (some id) := by
  cases e with
  | create =>
    rcases List.mem_cons.1 (s.create_opens.ids h) with heq | hmem
    · exact .inr (by rw [heq]; rfl)
    · exact .inl hmem
  | isLive i => exact .inl (s.ids_touch i h)
  | fetch i =>
    have h' : id ∈ (s.fetch i).2.ids := h
    rw [fetch_snd] at h'
    exact .inl (s.ids_touch i h')
  | put i c =>
    have h' : id ∈ (s.put i c).2.ids := h
    cases hput : (s.put i c).1 with
    | true => exact .inl ((put_keeps hput).ids h')
    | false => exact .inl ((put_sheds hput).1.ids h')
  | clear i => exact .inl ((s.sheds_clear i).ids h)
  | invalidate i =>
    have h' : id ∈ (s.erase i).ids := h
    rw [ids_erase] at h'
    exact .inl (List.mem_filter.1 h').1
  | rotate i =>
    have h' : id ∈ (s.rotate i).2.ids := h
    cases hrotate : (s.rotate i).1 with
    | none => exact .inl ((rotate_sheds hrotate).1.ids h')
    | some fresh =>
      rcases (rotate_moves hrotate).ids id h' with rfl | ⟨-, hmem⟩
      · exact .inr (congrArg StoreAnswer.id hrotate)
      · exact .inl hmem
  | purge => exact .inl (s.ids_purge_sublist.subset h)
  | wait ms => exact .inl h

theorem mem_ids_of_after (h : id ∈ (timed.after s events).ids) :
    id ∈ s.ids ∨ .id (some id) ∈ timed.answers s events := by
  induction events generalizing s with
  | nil => exact .inl h
  | cons e rest ih =>
    rw [TimedStore.answers, List.mem_cons]
    rcases ih h with hmem | hissued
    · exact (mem_ids_of_take hmem).imp_right fun heq => .inl heq.symm
    · exact .inr (.inr hissued)

/-- The dead that a sweep meets are held no longer. -/
theorem not_mem_ids_of_sweeps (hd : s.Distinct) (h : s.Sweeps e) (hdead : ¬s.Alive id)
    (hi : (timed.take s e).1 ≠ .id (some id)) : id ∉ (timed.take s e).2.ids := by
  rw [← mem_ids_purge hd] at hdead
  cases e with
  | create =>
    intro hmem
    have hmem' : id ∈ s.create.2.ids := hmem
    rw [create_snd, countCreate_of_due h, ids_insert] at hmem'
    rcases List.mem_cons.1 hmem' with rfl | hkept
    · exact hi (congrArg (fun i => StoreAnswer.id (some i)) s.create_fst)
    · exact hdead (List.mem_filter.1 hkept).1
  | purge => exact hdead
  | isLive | fetch | put | clear | invalidate | rotate | wait => exact h.elim

/-! ## The dead are not revived -/

theorem lost_iff (hd : s.Distinct) : timed.Lost s id ↔ ¬s.Alive id := by
  rw [← lost_roster hd, Roster.lost_iff, Alive, Option.not_isSome_iff_eq_none]
  rfl

theorem not_alive_after (hd : s.Distinct) (hdead : ¬s.Alive id) (hi : .id (some id) ∉ timed.answers s events) :
    ¬(timed.after s events).Alive id := by
  rw [Alive, Option.not_isSome_iff_eq_none] at hdead ⊢
  have hroster : (Roster.timed.after s.roster events).live id = none := by
    refine Roster.live_after hdead ?_
    rwa [answers_roster hd]
  rw [(after_roster hd events).1] at hroster
  exact hroster

/-- After 256 more sessions the dead are held no longer. -/
theorem not_mem_ids_after (hd : s.Distinct) (hdead : ¬s.Alive id) (hi : .id (some id) ∉ timed.answers s events)
    (hmany : sweepEvery ≤ opened events) : id ∉ (timed.after s events).ids := by
  have hswept : ¬s.Unswept events := by
    rw [unswept_iff]
    omega
  unfold Unswept at hswept
  push Not at hswept
  obtain ⟨first, second, rfl, hdue⟩ := hswept
  rw [TimedStore.answers_append, List.mem_append, not_or, TimedStore.answers, List.mem_cons, not_or] at hi
  obtain ⟨hfirst, hcreate, hsecond⟩ := hi
  have hgone := not_mem_ids_of_sweeps (after_roster hd first).2 (show Sweeps _ .create from hdue)
    (not_alive_after hd hdead hfirst) (Ne.symm hcreate)
  rw [TimedStore.after_append, TimedStore.after]
  exact fun hmem => (mem_ids_of_after hmem).elim hgone hsecond

/-- An id that is held has been issued, and with a supply that does not repeat itself it is not issued again. -/
theorem not_issued_of_held {supply : Nat → SessionId} {timeout : Option Nat} {before rest : List StoreEvent}
    (hfresh : ∀ m n, m < n → n < (before ++ rest).length → supply m ≠ supply n)
    (h : id ∈ (timed.after (.empty supply timeout) before).ids) :
    .id (some id) ∉ timed.answers (timed.after (.empty supply timeout) before) rest := by
  have hd : (Sessions.empty supply timeout).Distinct := List.nodup_nil
  obtain ⟨hafter, hd'⟩ := after_roster hd before
  have hissued : .id (some id) ∈ timed.answers (.empty supply timeout) before :=
    (mem_ids_of_after h).resolve_left List.not_mem_nil
  rw [← answers_roster hd] at hissued
  rw [← answers_roster hd', ← hafter]
  exact Roster.not_issued_again rfl hfresh hissued

/-! ## From one sweep to the next -/

/-- Since a sweep the sessions have become more only by those that have been opened. -/
theorem size_after_of_sweeps (hd : s.Distinct) (h : s.Sweeps e) (later : List StoreEvent) :
    (timed.after s (e :: later)).size ≤ s.population + opened (e :: later) := by
  have hswept := size_take_of_sweeps hd h
  have hgrown := size_after_le (timed.take s e).2 later
  rw [TimedStore.after, opened_cons]
  omega

/-- Until the next sweep comes, 256 sessions are opened at most, the one that came with the last sweep included. -/
theorem opened_le_of_unswept {later : List StoreEvent} (h : s.Sweeps e) (hlater : (timed.take s e).2.Unswept later) :
    opened (e :: later) ≤ sweepEvery := by
  rw [unswept_iff, created_take] at hlater
  rw [opened_cons]
  cases e with
  | create =>
    have hdue : s.created % 256 = 255 := h
    simp only [StoreEvent.opens, sweepEvery] at hlater ⊢
    omega
  | purge =>
    simp only [StoreEvent.opens, sweepEvery] at hlater ⊢
    omega
  | isLive | fetch | put | clear | invalidate | rotate | wait => exact h.elim

/-- A session that has died is never found again: no event revives it. And it is not held for ever: once 256 more
sessions have been opened, it is gone, whatever else has happened. So from one sweep to the next no more sessions are
held than have been alive when it came, and have been opened since; and those are 256 at most. -/
theorem dead_swept_out (supply : Nat → SessionId) (timeout : Option Nat) (before rest : List StoreEvent)
    {s t : Sessions} (hs : timed.after (.empty supply timeout) before = s) (ht : timed.after s rest = t) :
    (∀ id session, (id, session) ∈ s.held → s.isDead session = true →
        (∀ m n, m < n → n < (before ++ rest).length → supply m ≠ supply n) ∨
          .id (some id) ∉ timed.answers s rest →
        timed.Lost t id ∧ (sweepEvery ≤ opened rest → id ∉ t.ids)) ∧
      (∀ e later, rest = e :: later → s.Sweeps e → t.size ≤ s.population + opened rest ∧
        ((timed.take s e).2.Unswept later → opened rest ≤ sweepEvery)) ∧
      ((Sessions.empty supply timeout).Unswept before → s.size ≤ opened before ∧ opened before < sweepEvery) := by
  subst hs ht
  have hempty : (Sessions.empty supply timeout).Distinct := List.nodup_nil
  have hd := (after_roster hempty before).2
  refine ⟨?_, ?_, ?_⟩
  · intro id session hheld hdead hid
    have hnot : ¬(timed.after (.empty supply timeout) before).Alive id := by
      rw [Alive, live?, find?_of_mem_held hd hheld]
      simp [Option.filter_some, hdead]
    have hissued := hid.elim (fun hfresh => not_issued_of_held hfresh (List.mem_map_of_mem hheld)) fun h => h
    refine ⟨(lost_iff (after_roster hd rest).2).2 (not_alive_after hd hnot hissued), ?_⟩
    exact not_mem_ids_after hd hnot hissued
  · rintro e later rfl hsweeps
    exact ⟨size_after_of_sweeps hd hsweeps later, opened_le_of_unswept hsweeps⟩
  · intro hunswept
    rw [unswept_iff] at hunswept
    have hsize := size_after_le (.empty supply timeout) before
    have hnone : (Sessions.empty supply timeout).size = 0 := rfl
    exact ⟨by omega, by omega⟩

/-- A session is opened and left alone for longer than five milliseconds. -/
def leftAlone : List StoreEvent :=
  [.create, .wait 6]

/-- The dead are swept out, and 256 sessions are opened. -/
def crowd : List StoreEvent :=
  .purge :: List.replicate 256 .create

theorem opened_crowd : opened crowd = 256 := by
  rw [crowd, opened_cons, opened_replicate]
  rfl

/-- The session that was left alone is not found in the crowd, and is not among those that are held. -/
theorem leftAlone_swept_out :
    timed.Lost (timed.after (timed.after (.empty Ulid.ofNat (some 5)) leftAlone) crowd) (.ofNat 0) ∧
      .ofNat 0 ∉ (timed.after (timed.after (.empty Ulid.ofNat (some 5)) leftAlone) crowd).ids ∧
      (timed.after (timed.after (.empty Ulid.ofNat (some 5)) leftAlone) crowd).size ≤ 256 := by
  have hfresh : ∀ m n, m < n → n < (leftAlone ++ crowd).length → Ulid.ofNat m ≠ Ulid.ofNat n := by
    intro m n hlt hn
    rw [List.length_append, crowd, List.length_cons, List.length_replicate] at hn
    exact ofNat_ne hlt (Nat.lt_trans hn (by decide))
  obtain ⟨hgone, hsince, -⟩ := dead_swept_out Ulid.ofNat (some 5) leftAlone crowd rfl rfl
  obtain ⟨hlost, hswept⟩ := hgone (.ofNat 0) { lastUsed := 0 } (List.mem_singleton_self _) rfl (.inl hfresh)
  have hnobody : (timed.after (.empty Ulid.ofNat (some 5)) leftAlone).population = 0 := by decide
  have hsize := (hsince .purge _ rfl trivial).1
  rw [opened_crowd, hnobody] at hsize
  exact ⟨hlost, hswept (Nat.le_of_eq opened_crowd.symm), hsize⟩

end Sessions

end Portcullis
