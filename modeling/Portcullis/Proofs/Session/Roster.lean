import Mathlib.Logic.Function.Basic
import Portcullis.Proofs.Session.Event
import Portcullis.Proofs.Session.Live

/-!
# Sessions that end on time

A roster is a session store without remains: a session is deleted at the very moment at which it has been unused for
longer than the timeout. The sessions in memory (`Sessions`) delete late, when a dead session is asked for, in a purge
and in the sweeps that come with every 256th new session. Nobody can tell the difference.

* `Sessions.roster`: the roster that sessions in memory stand for.
* `Sessions.roster_take`: one event on the sessions is the same event on their roster.
* `Sessions.answers_eq_roster_and_lost_for_good`: all answers agree, and an id that has ended stays lost.
-/

namespace Portcullis

/-- The sessions that live, by id. -/
structure Roster where
  /-- Where new ids come from. -/
  supply : Nat → SessionId
  /-- How long a session lives unused; without end if there is none. -/
  timeout : Option Nat
  now : Nat := 0
  live : SessionId → Option Session := fun _ => none
  /-- How many ids have been taken from the supply. -/
  issued : Nat := 0

namespace Roster

/-- Has the session been unused for longer than the timeout? -/
def isOver (r : Roster) (session : Session) : Bool :=
  r.timeout.any fun limit => limit < r.now - session.lastUsed

/-- With another session, or none, under an id. -/
def set (r : Roster) (id : SessionId) (session : Option Session) : Roster :=
  { r with live := Function.update r.live id session }

/-- Time passes, and the sessions end that have been unused for too long. -/
def wait (r : Roster) (ms : Nat) : Roster :=
  let later := { r with now := r.now + ms }
  { later with live := fun id => (r.live id).filter fun session => !later.isOver session }

@[simp] theorem live_set (r : Roster) (id : SessionId) (session : Option Session) :
    (r.set id session).live = Function.update r.live id session := rfl

/-- The life of a session starts over. -/
def renew (r : Roster) (id : SessionId) : Roster :=
  r.set id ((r.live id).map ({ · with lastUsed := r.now }))

/-- Puts a session under the next id of the supply. -/
def issue (r : Roster) (session : Session) : SessionId × Roster :=
  (r.supply r.issued, { r.set (r.supply r.issued) (some session) with issued := r.issued + 1 })

/-- Makes a session hold a context. -/
def put (r : Roster) (id : SessionId) (context : SecurityContext) : Roster :=
  r.set id ((r.live id).map fun _ => { context := some context, lastUsed := r.now })

/-- Makes a session hold no context. -/
def clear (r : Roster) (id : SessionId) : Roster :=
  r.set id ((r.live id).map ({ · with context := none }))

/-- Moves a session to the next id of the supply. -/
def rotate (r : Roster) (id : SessionId) : Option SessionId × Roster :=
  match r.live id with
  | none => (none, r)
  | some session =>
    let (fresh, r) := (r.set id none).issue { session with lastUsed := r.now }
    (some fresh, r)

/-- The roster as a session store. There is never anything to sweep. -/
def timed : TimedStore Roster where
  create := modifyGet fun r => r.issue { lastUsed := r.now }
  isLive id := modifyGet fun r => ((r.live id).isSome, r.renew id)
  fetch id := modifyGet fun r => ((r.live id).bind (·.context), r.renew id)
  put id context := modifyGet fun r => ((r.live id).isSome, r.put id context)
  clear id := modifyGet fun r => ((), r.clear id)
  invalidate id := modifyGet fun r => ((), r.set id none)
  rotate id := modifyGet fun r => r.rotate id
  purge := id
  wait := wait

/-- No sessions yet. -/
def empty (supply : Nat → SessionId) (timeout : Option Nat) : Roster where
  supply := supply
  timeout := timeout

variable {r : Roster} {id : SessionId}

/-! ## Lost ids stay lost -/

theorem lost_iff : timed.Lost r id ↔ r.live id = none := by
  constructor
  · rintro ⟨h, -⟩
    have h' : StoreAnswer.flag (r.live id).isSome = .flag false := h
    simpa using h'
  · intro h
    refine ⟨?_, ?_, fun context => ?_, ?_⟩
    · show StoreAnswer.flag (r.live id).isSome = _
      rw [h]
      rfl
    · show StoreAnswer.context ((r.live id).bind (·.context)) = _
      rw [h]
      rfl
    · show StoreAnswer.flag (r.live id).isSome = _
      rw [h]
      rfl
    · show StoreAnswer.id (r.rotate id).1 = _
      rw [rotate, h]

/-- An event issues the next id of the supply, or none. -/
theorem take_issued (r : Roster) (e : StoreEvent) :
    (timed.take r e).2.supply = r.supply ∧
      ((timed.take r e).1 = .id (some (r.supply r.issued)) ∧ (timed.take r e).2.issued = r.issued + 1 ∨
        (∀ id, (timed.take r e).1 ≠ .id (some id)) ∧ (timed.take r e).2.issued = r.issued) := by
  cases e with
  | create => exact ⟨rfl, .inl ⟨rfl, rfl⟩⟩
  | rotate id =>
    have h : timed.take r (.rotate id) = (.id (r.rotate id).1, (r.rotate id).2) := rfl
    rw [h, rotate]
    cases r.live id with
    | none => exact ⟨rfl, .inr ⟨by simp, rfl⟩⟩
    | some session => exact ⟨rfl, .inl ⟨rfl, rfl⟩⟩
  | _ => exact ⟨rfl, .inr ⟨fun _ h => (by cases h), rfl⟩⟩

theorem live_set_none {other : SessionId} {session : Option Session} (h : r.live id = none)
    (hs : other = id → session = none) : (r.set other session).live id = none := by
  rw [live_set, Function.update_apply]
  split
  · rename_i heq
    exact hs heq.symm
  · exact h

/-- An id that is not on the roster comes onto it only by being issued. -/
theorem live_take {e : StoreEvent} (h : r.live id = none) (hi : (timed.take r e).1 ≠ .id (some id)) :
    (timed.take r e).2.live id = none := by
  cases e with
  | create =>
    have hne : r.supply r.issued ≠ id := fun heq => hi (by rw [← heq]; rfl)
    exact live_set_none h fun heq => absurd heq hne
  | isLive other => exact live_set_none h fun heq => by rw [heq, h]; rfl
  | fetch other => exact live_set_none h fun heq => by rw [heq, h]; rfl
  | put other context => exact live_set_none h fun heq => by rw [heq, h]; rfl
  | clear other => exact live_set_none h fun heq => by rw [heq, h]; rfl
  | invalidate other => exact live_set_none h fun _ => rfl
  | rotate other =>
    have ht : timed.take r (.rotate other) = (.id (r.rotate other).1, (r.rotate other).2) := rfl
    rw [ht, rotate] at hi ⊢
    cases hl : r.live other with
    | none => exact h
    | some session =>
      rw [hl] at hi
      have hne : r.supply r.issued ≠ id := fun heq => hi (by rw [← heq]; rfl)
      have hout : (r.set other none).live id = none := live_set_none h fun _ => rfl
      exact live_set_none hout fun heq => absurd heq hne
  | purge => exact h
  | wait ms =>
    show Option.filter _ (r.live id) = none
    rw [h]
    rfl

theorem live_after {events : List StoreEvent} (h : r.live id = none)
    (hi : .id (some id) ∉ timed.answers r events) : (timed.after r events).live id = none := by
  induction events generalizing r with
  | nil => exact h
  | cons e rest ih =>
    rw [TimedStore.answers, List.mem_cons, not_or] at hi
    exact ih (live_take h (Ne.symm hi.1)) hi.2

/-- Every event takes one id from the supply at most. -/
theorem after_issued (r : Roster) (events : List StoreEvent) :
    (timed.after r events).supply = r.supply ∧ r.issued ≤ (timed.after r events).issued ∧
      (timed.after r events).issued ≤ r.issued + events.length := by
  induction events generalizing r with
  | nil => exact ⟨rfl, Nat.le_refl _, Nat.le_refl _⟩
  | cons e rest ih =>
    obtain ⟨hsupply, hle, hge⟩ := ih (timed.take r e).2
    obtain ⟨hsame, hissued⟩ := r.take_issued e
    have hstep : (timed.take r e).2.issued = r.issued + 1 ∨ (timed.take r e).2.issued = r.issued :=
      hissued.imp And.right And.right
    refine ⟨hsupply.trans hsame, ?_, ?_⟩
    · show r.issued ≤ (timed.after (timed.take r e).2 rest).issued
      omega
    · show (timed.after (timed.take r e).2 rest).issued ≤ r.issued + (rest.length + 1)
      omega

/-- The ids that a run issues are those of the supply, in order. -/
theorem issued_of_mem_answers {events : List StoreEvent} (h : .id (some id) ∈ timed.answers r events) :
    ∃ n, r.issued ≤ n ∧ n < (timed.after r events).issued ∧ id = r.supply n := by
  induction events generalizing r with
  | nil => cases h
  | cons e rest ih =>
    obtain ⟨hsame, hissued⟩ := r.take_issued e
    have hmono := (after_issued (timed.take r e).2 rest).2.1
    rw [TimedStore.answers, List.mem_cons] at h
    rcases h with h | h
    · rcases hissued with ⟨hid, hnext⟩ | ⟨hno, -⟩
      · rw [hid] at h
        cases h
        exact ⟨r.issued, Nat.le_refl _, by rw [TimedStore.after]; omega, rfl⟩
      · exact absurd h.symm (hno id)
    · obtain ⟨n, hle, hlt, hid⟩ := ih h
      refine ⟨n, ?_, hlt, by rw [hid, hsame]⟩
      rcases hissued with ⟨-, hnext⟩ | ⟨-, hnext⟩ <;> omega

/-- With a supply that does not repeat itself, no id is issued twice. -/
theorem not_issued_again {before rest : List StoreEvent} (hr : r.issued = 0)
    (hfresh : ∀ m n, m < n → n < (before ++ rest).length → r.supply m ≠ r.supply n)
    (h : .id (some id) ∈ timed.answers r before) : .id (some id) ∉ timed.answers (timed.after r before) rest := by
  intro hagain
  obtain ⟨m, -, hm, hid⟩ := issued_of_mem_answers h
  obtain ⟨n, hn, hlt, hid'⟩ := issued_of_mem_answers hagain
  have hall := (r.after_issued (before ++ rest)).2.2
  rw [TimedStore.after_append] at hall
  rw [(r.after_issued before).1] at hid'
  exact hfresh m n (by omega) (by omega) (hid.symm.trans hid')

theorem live_rotate_self (h : r.live id ≠ none → r.supply r.issued ≠ id) : (r.rotate id).2.live id = none := by
  unfold rotate
  cases hl : r.live id with
  | none => exact hl
  | some session =>
    have hout : (r.set id none).live id = none := by simp
    exact live_set_none hout fun heq => absurd heq (h (by simp [hl]))

/-- An id that is invalidated or rotated away is lost at once. -/
theorem live_of_ended {before : List StoreEvent} {e : StoreEvent} {rest : List StoreEvent} (hr : r.issued = 0)
    (hnew : r.live id = none)
    (hfresh : ∀ m n, m < n → n < (before ++ e :: rest).length → r.supply m ≠ r.supply n)
    (he : e = .invalidate id ∨ e = .rotate id) : (timed.after r (before ++ [e])).live id = none := by
  rw [TimedStore.after_append]
  rcases he with rfl | rfl
  · show ((timed.after r before).set id none).live id = none
    simp
  · refine live_rotate_self fun hlive => ?_
    -- an id that is live has been issued, so the next of the supply is another
    have hissued : .id (some id) ∈ timed.answers r before := by
      by_contra hno
      exact hlive (live_after hnew hno)
    obtain ⟨n, -, hn, rfl⟩ := issued_of_mem_answers hissued
    have hlen := (r.after_issued before).2.2
    rw [(r.after_issued before).1]
    refine (hfresh n _ hn ?_).symm
    simp only [List.length_append, List.length_cons]
    omega

end Roster

namespace Sessions

variable {s : Sessions}

/-- The roster of the sessions that are alive. -/
def roster (s : Sessions) : Roster :=
  ⟨s.supply, s.timeout, s.now, s.live?, s.issued⟩

/-! ## Call by call -/

theorem roster_touch (s : Sessions) (id : SessionId) : (s.touch id).2.roster = s.roster.renew id := by
  have hlive : (s.touch id).2.live? = (s.roster.renew id).live := by
    funext other
    rw [live?_touch, Roster.renew, Roster.live_set, Function.update_apply]
    rfl
  simp only [roster, hlive, touch_supply, touch_timeout, touch_now, touch_issued]
  rfl

theorem roster_put (s : Sessions) (id : SessionId) (c : SecurityContext) :
    (s.put id c).2.roster = s.roster.put id c := by
  have hlive : (s.put id c).2.live? = (s.roster.put id c).live := by
    funext other
    rw [live?_put, Roster.put, Roster.live_set, Function.update_apply]
    rfl
  rw [roster, hlive, put_snd]
  split <;> simp [Roster.put, Roster.set, roster, modify]

theorem roster_clear (s : Sessions) (id : SessionId) : (s.clear id).roster = s.roster.clear id := by
  have hlive : (s.clear id).live? = (s.roster.clear id).live := by
    funext other
    rw [live?_clear, Roster.clear, Roster.live_set, Function.update_apply]
    rfl
  rw [roster, hlive]
  rfl

theorem roster_erase (s : Sessions) (id : SessionId) : (s.erase id).roster = s.roster.set id none := by
  have hlive : (s.erase id).live? = (s.roster.set id none).live := by
    funext other
    rw [live?_erase, Roster.live_set, Function.update_apply]
    rfl
  rw [roster, hlive]
  rfl

theorem roster_create (hd : s.Distinct) :
    (s.create.1, s.create.2.roster) = s.roster.issue { lastUsed := s.now } := by
  have hlive : s.create.2.live? = (s.roster.issue { lastUsed := s.now }).2.live := by
    funext other
    simp only [live?_create hd, Roster.issue, Roster.live_set, Function.update_apply]
    rfl
  obtain ⟨held, h⟩ := s.countCreate_eq
  rw [roster, hlive, create_fst, create_snd, h]
  rfl

theorem roster_rotate (s : Sessions) (id : SessionId) :
    ((s.rotate id).1, (s.rotate id).2.roster) = s.roster.rotate id := by
  have hroster : s.roster.live = s.live? := rfl
  rw [Roster.rotate, hroster, rotate_fst]
  cases hl : s.live? id with
  | none =>
    have hsame : (s.rotate id).2.live? = s.live? := funext fun other => by rw [live?_rotate, hl]
    rw [Option.map_none, roster, hsame, rotate_snd, hl]
    simp [roster]
  | some session =>
    have hmoved : (s.rotate id).2.live? =
        Function.update (Function.update s.live? id none) (s.supply s.issued)
          (some { session with lastUsed := s.now }) := by
      funext other
      rw [live?_rotate, hl]
      simp only [Function.update_apply]
    rw [Option.map_some, roster, hmoved, rotate_snd, hl]
    simp [Sessions.insert, erase, Roster.issue, Roster.set, roster]

theorem roster_purge (hd : s.Distinct) : s.purge.roster = s.roster := by
  have hlive : s.purge.live? = s.live? := funext (live?_purge hd)
  rw [roster, hlive]
  rfl

theorem roster_wait (s : Sessions) (ms : Nat) : (s.wait ms).roster = s.roster.wait ms := by
  have hlive : (s.wait ms).live? = (s.roster.wait ms).live := funext (s.live?_wait ms)
  rw [roster, hlive]
  rfl

/-! ## Run by run -/

/-- What the roster's store does on one event is what the sessions do. -/
theorem roster_take (hd : s.Distinct) (e : StoreEvent) :
    Roster.timed.take s.roster e = ((timed.take s e).1, (timed.take s e).2.roster) := by
  cases e with
  | create =>
    show (StoreAnswer.id (some (s.roster.issue { lastUsed := s.now }).1), (s.roster.issue { lastUsed := s.now }).2) = _
    rw [← roster_create hd]
    rfl
  | isLive id =>
    show (StoreAnswer.flag (s.live? id).isSome, s.roster.renew id) = _
    rw [← touch_fst, ← roster_touch]
    rfl
  | fetch id =>
    show (StoreAnswer.context ((s.live? id).bind (·.context)), s.roster.renew id) = _
    rw [← fetch_fst, ← roster_touch, ← fetch_snd]
    rfl
  | put id c =>
    show (StoreAnswer.flag (s.live? id).isSome, s.roster.put id c) = _
    rw [← put_fst s id c, ← roster_put]
    rfl
  | clear id =>
    show (StoreAnswer.done, s.roster.clear id) = _
    rw [← roster_clear]
    rfl
  | invalidate id =>
    show (StoreAnswer.done, s.roster.set id none) = _
    rw [← roster_erase]
    rfl
  | rotate id =>
    show (StoreAnswer.id (s.roster.rotate id).1, (s.roster.rotate id).2) = _
    rw [← roster_rotate]
    rfl
  | purge =>
    show (StoreAnswer.done, s.roster) = _
    rw [← roster_purge hd]
    rfl
  | wait ms =>
    show (StoreAnswer.done, s.roster.wait ms) = _
    rw [← roster_wait]
    rfl

theorem Distinct.take (hd : s.Distinct) (e : StoreEvent) : (timed.take s e).2.Distinct := by
  cases e with
  | create => exact hd.create
  | isLive id => exact hd.touch id
  | fetch id =>
    show (s.fetch id).2.Distinct
    rw [fetch_snd]
    exact hd.touch id
  | put id c => exact hd.put id c
  | clear id => exact hd.modify id _
  | invalidate id => exact hd.erase id
  | rotate id => exact hd.rotate id
  | purge => exact hd.purge
  | wait ms => exact hd

theorem answers_roster (hd : s.Distinct) (events : List StoreEvent) :
    Roster.timed.answers s.roster events = timed.answers s events := by
  induction events generalizing s with
  | nil => rfl
  | cons e rest ih =>
    rw [TimedStore.answers, TimedStore.answers, roster_take hd]
    exact congrArg _ (ih (hd.take e))

theorem after_roster (hd : s.Distinct) (events : List StoreEvent) :
    Roster.timed.after s.roster events = (timed.after s events).roster ∧ (timed.after s events).Distinct := by
  induction events generalizing s with
  | nil => exact ⟨rfl, hd⟩
  | cons e rest ih =>
    rw [TimedStore.after, TimedStore.after, roster_take hd]
    exact ih (hd.take e)

theorem lost_roster (hd : s.Distinct) (id : SessionId) : Roster.timed.Lost s.roster id ↔ timed.Lost s id := by
  simp only [TimedStore.Lost, roster_take hd]

/-- The sessions in memory and the roster that deletes on time give the same answers to everything. An id that has been
invalidated, rotated away or otherwise lost is never found again, provided that it is not issued later: and it is not if
it was issued before, as the supply does not repeat itself. -/
theorem answers_eq_roster_and_lost_for_good (supply : Nat → SessionId) (timeout : Option Nat)
    (events : List StoreEvent) (hfresh : ∀ m n, m < n → n < events.length → supply m ≠ supply n) :
    timed.answers (.empty supply timeout) events = Roster.timed.answers (.empty supply timeout) events ∧
      ∀ before e rest, events = before ++ e :: rest → ∀ id,
        (e = .invalidate id ∨ e = .rotate id ∨ timed.Lost (timed.after (.empty supply timeout) (before ++ [e])) id) →
        (.id (some id) ∈ timed.answers (.empty supply timeout) before ∨
          .id (some id) ∉ timed.answers (timed.after (.empty supply timeout) (before ++ [e])) rest) →
        timed.Lost (timed.after (.empty supply timeout) events) id := by
  have hd : (Sessions.empty supply timeout).Distinct := List.nodup_nil
  have hempty : (Sessions.empty supply timeout).roster = .empty supply timeout := rfl
  refine ⟨by rw [← hempty, answers_roster hd], ?_⟩
  rintro before e rest rfl id he hissued
  have hsplit : before ++ e :: rest = (before ++ [e]) ++ rest := by simp
  obtain ⟨hafter, hd'⟩ := after_roster hd (before ++ [e])
  obtain ⟨hall, hd''⟩ := after_roster hd (before ++ e :: rest)
  rw [← lost_roster hd'', ← hall, Roster.lost_iff, hsplit, TimedStore.after_append]
  refine Roster.live_after ?_ ?_
  · rw [← lost_roster hd', ← hafter, Roster.lost_iff, ← or_assoc] at he
    rcases he with he | he
    · exact Roster.live_of_ended rfl rfl hfresh he
    · exact he
  · rcases hissued with h | h
    · rw [← answers_roster hd] at h
      refine Roster.not_issued_again rfl (by rw [← hsplit]; exact hfresh) ?_
      rw [TimedStore.answers_append]
      exact List.mem_append_left _ h
    · rwa [hafter, answers_roster hd']

/-- The ids with small numbers are different ids. -/
theorem ofNat_ne {m n : Nat} (h : m < n) (hn : n < UInt64.size) : Ulid.ofNat m ≠ Ulid.ofNat n := by
  intro heq
  have hbits : (BitVec.ofNat 128 m).toNat = (BitVec.ofNat 128 n).toNat := by
    rw [Ulid.mk.inj heq]
  rw [UInt64.size] at hn
  rw [BitVec.toNat_ofNat, BitVec.toNat_ofNat, Nat.mod_eq_of_lt (by omega), Nat.mod_eq_of_lt (by omega)] at hbits
  omega

/-- A session is used at the last moment, moved to a new id, and dies there. -/
theorem answers_eq_roster_rotated_then_expired :
    (∀ m n, m < n → n < 7 → Ulid.ofNat m ≠ Ulid.ofNat n) ∧
      timed.answers (.empty Ulid.ofNat (some 5)) [.create, .wait 5, .put (.ofNat 0) .empty, .rotate (.ofNat 0), .wait 6,
        .fetch (.ofNat 1), .isLive (.ofNat 0)] =
      Roster.timed.answers (.empty Ulid.ofNat (some 5)) [.create, .wait 5, .put (.ofNat 0) .empty, .rotate (.ofNat 0),
        .wait 6, .fetch (.ofNat 1), .isLive (.ofNat 0)] ∧
      timed.Lost (timed.after (.empty Ulid.ofNat (some 5)) [.create, .wait 5, .put (.ofNat 0) .empty,
        .rotate (.ofNat 0), .wait 6, .fetch (.ofNat 1), .isLive (.ofNat 0)]) (.ofNat 0) := by
  have hfresh : ∀ m n, m < n → n < 7 → Ulid.ofNat m ≠ Ulid.ofNat n := fun m n h hn => ofNat_ne h (Nat.lt_trans hn (by decide))
  obtain ⟨hsame, hlost⟩ := answers_eq_roster_and_lost_for_good Ulid.ofNat (some 5)
    [.create, .wait 5, .put (.ofNat 0) .empty, .rotate (.ofNat 0), .wait 6, .fetch (.ofNat 1), .isLive (.ofNat 0)] hfresh
  refine ⟨hfresh, hsame, hlost [.create, .wait 5, .put (.ofNat 0) .empty] (.rotate (.ofNat 0))
    [.wait 6, .fetch (.ofNat 1), .isLive (.ofNat 0)] rfl _ (.inr (.inl rfl)) (.inl ?_)⟩
  decide

end Sessions

end Portcullis
