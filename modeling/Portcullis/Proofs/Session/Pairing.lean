import Portcullis.Proofs.Comparison
import Portcullis.Proofs.Session.Renewal

/-!
# Sessions of one client, and those of others

Two stores of sessions are used side by side on behalf of one client. The first holds sessions of other clients as well,
has swept at other times, and has given its ids to everybody; the second is there for this client alone. As long as only
such ids are used as do not belong to others, the two give the same answers, and the sessions of others stay as they are
(`Sessions.Pairing.Echo`).

* `Sessions.Pairing.calls_touch` and the like: what a call to both stores does.
* `Repository.load_echoes`, `save_echoes`, `rotate_echoes`: the same for a repository of sessions.
-/

namespace Portcullis

namespace Sessions

variable {s t u s' t' : Sessions} {id : SessionId} {n m : Nat}

/-- Time has stood still, and this many ids have been issued. -/
structure Draws (s : Sessions) (n : Nat) (t : Sessions) : Prop where
  supply : t.supply = s.supply
  timeout : t.timeout = s.timeout
  now : t.now = s.now
  issued : t.issued = s.issued + n

namespace Draws

theorem refl (s : Sessions) : s.Draws 0 s :=
  ⟨rfl, rfl, rfl, rfl⟩

theorem trans (h : s.Draws n t) (h' : t.Draws m u) : s.Draws (n + m) u where
  supply := h'.supply.trans h.supply
  timeout := h'.timeout.trans h.timeout
  now := h'.now.trans h.now
  issued := by rw [h'.issued, h.issued, Nat.add_assoc]

theorem touch (s : Sessions) (id : SessionId) : s.Draws 0 (s.touch id).2 :=
  ⟨s.touch_supply id, s.touch_timeout id, s.touch_now id, s.touch_issued id⟩

theorem put (s : Sessions) (id : SessionId) (c : SecurityContext) : s.Draws 0 (s.put id c).2 := by
  obtain ⟨held, h⟩ := s.exists_put id c
  rw [h]
  exact ⟨rfl, rfl, rfl, rfl⟩

theorem create (s : Sessions) : s.Draws 1 s.create.2 := by
  obtain ⟨held, h⟩ := s.exists_create
  rw [h]
  exact ⟨rfl, rfl, rfl, rfl⟩

theorem rotate (s : Sessions) (id : SessionId) :
    s.Draws (if (s.live? id).isSome then 1 else 0) (s.rotate id).2 := by
  obtain ⟨held, h⟩ := s.exists_rotate id
  rw [h]
  exact ⟨rfl, rfl, rfl, rfl⟩

end Draws

/-- Two stores of sessions as a client's request comes in, the first one shared with others. As many ids as will be
issued to the client belong to nobody else, and the second store issues the same. -/
structure Pairing where
  shared : Sessions
  alone : Sessions
  /-- The ids that belong to others. -/
  foreign : SessionId → Prop
  /-- How many ids the shared store may have issued in the end. -/
  limit : Nat
  now : alone.now = shared.now
  fresh : ∀ n, shared.issued + n < limit → ¬ foreign (shared.supply (shared.issued + n)) ∧
    alone.supply (alone.issued + n) = shared.supply (shared.issued + n)

namespace Pairing

variable (P : Pairing)

/-- What has become of the two stores: both have issued as many ids, and they hold the same sessions as far as these do
not belong to others. Those of others are as they were, and of the ids that nobody had there may only be new ones. -/
structure Echo (s t : Sessions) : Prop where
  drawn : ∃ n, P.shared.Draws n s ∧ P.alone.Draws n t
  distinct : s.Distinct
  distinct' : t.Distinct
  own : ∀ i, ¬ P.foreign i → t.live? i = s.live? i
  others : ∀ i, P.foreign i → s.live? i = P.shared.live? i
  lives : ∀ i, (s.live? i).isSome = true → (P.shared.live? i).isSome = true ∨ P.shared.Issues s i

/-- The call issues ids, if it does anything with them; and under the proviso both stores give the same answer, which
is as it has to be. -/
structure Calls {α : Type} (proviso : Prop) (f : Sessions → α × Sessions) (post : α → Prop) : Prop where
  grows : ∀ s, s.issued ≤ (f s).2.issued
  echo : proviso → ∀ s t, P.Echo s t → (f s).2.issued ≤ P.limit →
    (f t).1 = (f s).1 ∧ P.Echo (f s).2 (f t).2 ∧ post (f s).1

/-- A session with this id, if there is an id, does not belong to others. -/
def Own (session : Option SessionId) : Prop :=
  ∀ id, session = some id → ¬ P.foreign id

variable {P}

namespace Echo

theorem now (h : P.Echo s t) : t.now = s.now := by
  obtain ⟨n, hs, ht⟩ := h.drawn
  rw [hs.now, ht.now, P.now]

/-- The next id is the same in both stores. -/
theorem fresh (h : P.Echo s t) (hlimit : s.issued < P.limit) :
    ¬ P.foreign (s.supply s.issued) ∧ t.supply t.issued = s.supply s.issued := by
  obtain ⟨n, hs, ht⟩ := h.drawn
  rw [hs.supply, hs.issued, ht.supply, ht.issued]
  exact P.fresh n (by rwa [← hs.issued])

/-- One more call. -/
theorem step (h : P.Echo s t) (hs : s.Draws n s') (ht : t.Draws n t') (hd : s'.Distinct) (hd' : t'.Distinct)
    (hown : ∀ i, ¬ P.foreign i → t'.live? i = s'.live? i) (hothers : ∀ i, P.foreign i → s'.live? i = s.live? i)
    (hlives : ∀ i, (s'.live? i).isSome = true → (s.live? i).isSome = true ∨ s.Issues s' i) : P.Echo s' t' where
  drawn := by
    obtain ⟨m, hs₀, ht₀⟩ := h.drawn
    exact ⟨m + n, hs₀.trans hs, ht₀.trans ht⟩
  distinct := hd
  distinct' := hd'
  own := hown
  others i hi := (hothers i hi).trans (h.others i hi)
  lives i hi := by
    obtain ⟨m, hs₀, -⟩ := h.drawn
    have hle : s.issued ≤ s'.issued := hs.issued ▸ Nat.le_add_right _ _
    rcases hlives i hi with hlive | ⟨k, hk, hk', rfl⟩
    · refine (h.lives i hlive).imp_right ?_
      rintro ⟨k, hk, hk', hid⟩
      exact ⟨k, hk, Nat.lt_of_lt_of_le hk' hle, hid⟩
    · exact .inr ⟨k, Nat.le_trans (hs₀.issued ▸ Nat.le_add_right _ _) hk, hk', by rw [hs₀.supply]⟩

end Echo

/-! ## Calls -/

/-- A call that changes nothing but the session of one id, and that in both stores alike. -/
theorem Echo.change (h : P.Echo s t) (hid : ¬ P.foreign id) (f : Session → Session) (hs : s.Draws 0 s')
    (ht : t.Draws 0 t') (hd : s'.Distinct) (hd' : t'.Distinct)
    (hlive : ∀ i, s'.live? i = if i = id then (s.live? id).map f else s.live? i)
    (hlive' : ∀ i, t'.live? i = if i = id then (t.live? id).map f else t.live? i) : P.Echo s' t' := by
  refine h.step hs ht hd hd' (fun i hi => ?_) (fun i hi => ?_) fun i hi => ?_
  · rw [hlive, hlive', h.own id hid, h.own i hi]
  · rw [hlive, if_neg fun (he : i = id) => hid (he ▸ hi)]
  · rw [hlive] at hi
    split at hi
    · rename_i he
      exact .inl (by simpa [he] using hi)
    · exact .inl hi

/-- The use of a session. -/
theorem calls_touch (id : SessionId) : P.Calls (¬ P.foreign id) (·.touch id) fun _ => True where
  grows s := Nat.le_of_eq (s.touch_issued id).symm
  echo hid s t h _ := by
    refine ⟨by rw [touch_fst, touch_fst, h.own id hid], ?_, trivial⟩
    exact h.change hid ({ · with lastUsed := s.now }) (.touch s id) (.touch t id) (h.distinct.touch id)
      (h.distinct'.touch id) (s.live?_touch id) fun i => by rw [live?_touch, h.now]

theorem calls_fetch (id : SessionId) : P.Calls (¬ P.foreign id) (·.fetch id) fun _ => True where
  grows s := by
    rw [fetch_snd]
    exact (calls_touch (P := P) id).grows s
  echo hid s t h hlimit := by
    simp only [fetch_snd] at hlimit ⊢
    exact ⟨by rw [fetch_fst, fetch_fst, h.own id hid], ((calls_touch id).echo hid s t h hlimit).2⟩

theorem calls_put (id : SessionId) (c : SecurityContext) :
    P.Calls (¬ P.foreign id) (·.put id c) fun _ => True where
  grows s := Nat.le_of_eq (Draws.put s id c).issued.symm
  echo hid s t h _ := by
    refine ⟨by rw [put_fst, put_fst, h.own id hid], ?_, trivial⟩
    exact h.change hid (fun _ => { context := some c, lastUsed := s.now }) (.put s id c) (.put t id c)
      (h.distinct.put id c) (h.distinct'.put id c) (fun i => s.live?_put id i c) fun i => by rw [live?_put, h.now]

theorem calls_clear (id : SessionId) : P.Calls (¬ P.foreign id) (fun s => ((), s.clear id)) fun _ => True where
  grows _ := Nat.le_refl _
  echo hid s t h _ := by
    refine ⟨rfl, ?_, trivial⟩
    exact h.change hid ({ · with context := none }) ⟨rfl, rfl, rfl, rfl⟩ ⟨rfl, rfl, rfl, rfl⟩ (h.distinct.modify id _)
      (h.distinct'.modify id _) (s.live?_clear id) (t.live?_clear id)

/-- A call that has the session `opened` under a new id, in both stores the same, and leaves none under the old ids. -/
theorem Echo.issue (h : P.Echo s t) (hlimit : s.issued < P.limit) (opened : Session) (old : SessionId → Prop)
    [DecidablePred old] (hold : ∀ i, old i → ¬ P.foreign i) (hs : s.Draws 1 s') (ht : t.Draws 1 t')
    (hd : s'.Distinct) (hd' : t'.Distinct)
    (hlive : ∀ i, s'.live? i = if i = s.supply s.issued then some opened else if old i then none else s.live? i)
    (hlive' : ∀ i, t'.live? i = if i = t.supply t.issued then some opened else if old i then none else t.live? i) :
    P.Echo s' t' := by
  obtain ⟨hmine, hsame⟩ := h.fresh hlimit
  refine h.step hs ht hd hd' (fun i hi => ?_) (fun i hi => ?_) fun i hi => ?_
  · rw [hlive, hlive', hsame, h.own i hi]
  · have hnew : i ≠ s.supply s.issued := fun he => hmine (he ▸ hi)
    rw [hlive, if_neg hnew, if_neg fun ho => hold i ho hi]
  · rw [hlive] at hi
    split at hi
    · exact .inr ⟨s.issued, Nat.le_refl _, by rw [hs.issued]; exact Nat.lt_succ_self _, ‹_›⟩
    split at hi
    · cases hi
    · exact .inl hi

/-- A session is opened, in both stores with the same id. -/
theorem calls_create : P.Calls True create fun id => ¬ P.foreign id where
  grows s := by
    rw [(Draws.create s).issued]
    exact Nat.le_add_right _ _
  echo _ s t h hlimit := by
    rw [(Draws.create s).issued] at hlimit
    obtain ⟨hmine, hsame⟩ := h.fresh hlimit
    refine ⟨by rw [create_fst, create_fst, hsame], ?_, by rwa [create_fst]⟩
    refine h.issue hlimit { lastUsed := s.now } (fun _ => False) (fun _ => False.elim) (.create s) (.create t)
      h.distinct.create h.distinct'.create (fun i => ?_) fun i => ?_
    · rw [live?_create h.distinct, if_neg not_false]
    · rw [live?_create h.distinct', if_neg not_false, h.now]

/-- A session is moved, in both stores to the same id. -/
theorem calls_rotate (id : SessionId) : P.Calls (¬ P.foreign id) (·.rotate id) P.Own where
  grows s := by
    rw [(Draws.rotate s id).issued]
    exact Nat.le_add_right _ _
  echo hid s t h hlimit := by
    have hlive := h.own id hid
    cases hs : s.live? id with
    | none =>
      rw [hs] at hlive
      have hrotate : s.rotate id = (none, (s.touch id).2) :=
        Prod.ext (by rw [rotate_fst, hs]; rfl) (by rw [rotate_snd, hs])
      have hrotate' : t.rotate id = (none, (t.touch id).2) :=
        Prod.ext (by rw [rotate_fst, hlive]; rfl) (by rw [rotate_snd, hlive])
      rw [hrotate] at hlimit
      rw [hrotate, hrotate']
      exact ⟨rfl, ((calls_touch id).echo hid s t h hlimit).2.1, by rintro _ ⟨⟩⟩
    | some session =>
      rw [hs] at hlive
      have hdraws := Draws.rotate s id
      rw [hs, Option.isSome_some, if_pos rfl] at hdraws
      have hdraws' := Draws.rotate t id
      rw [hlive, Option.isSome_some, if_pos rfl] at hdraws'
      rw [hdraws.issued] at hlimit
      obtain ⟨hmine, hsame⟩ := h.fresh hlimit
      refine ⟨by rw [rotate_fst, rotate_fst, hlive, hs, hsame], ?_, ?_⟩
      · refine h.issue hlimit { session with lastUsed := s.now } (· = id) (fun i hi => hi ▸ hid) hdraws hdraws'
          (h.distinct.rotate id) (h.distinct'.rotate id) (fun i => ?_) fun i => ?_
        · rw [live?_rotate, hs]
        · rw [live?_rotate, hlive, h.now]
      · rw [rotate_fst, hs]
        rintro _ ⟨⟩
        exact hmine

end Pairing

end Sessions

/-! ## Operations on visits -/

section Visits

variable {σ α β : Type} {P : Sessions.Pairing} {view : σ → Sessions} {proviso : Prop}

/-- Visits that are the same and do not bring along what belongs to others, each with its own store. -/
def Sessions.Pairing.visits (P : Sessions.Pairing) (view : σ → Sessions) : Comparison (Visit × σ) where
  fit _ := True
  used x := (view x.2).issued
  limit := P.limit
  alike x y := y.1 = x.1 ∧ P.Own x.1.session ∧ P.Echo (view x.2) (view y.2)
  fit_of_alike _ := trivial

namespace VisitOp

theorem echoes_visit : (P.visits view).Echoes proviso (VisitOp.visit : VisitOp σ Visit) fun v => P.Own v.session where
  keeps _ _ := ⟨trivial, Nat.le_refl _⟩
  echo _ x y h _ := by
    refine ⟨congrArg Except.ok h.1, h, ?_⟩
    rintro _ ⟨⟩
    exact h.2.1

theorem echoes_bind {id : SessionId} (hid : proviso → ¬ P.foreign id) :
    (P.visits view).Echoes proviso (VisitOp.bind id : VisitOp σ Unit) fun _ => True where
  keeps _ _ := ⟨trivial, Nat.le_refl _⟩
  echo hp x y h _ := by
    refine ⟨rfl, ⟨congrArg (·.bind id) h.1, ?_, h.2.2⟩, fun _ _ => trivial⟩
    rintro _ ⟨⟩
    exact hid hp

/-- A call to the store. -/
theorem echoes_call {op : Op σ α} {f : Sessions → α × Sessions} {needs : Prop} {post : α → Prop}
    (h : op.Mirrors view f) (hf : P.Calls needs f post) (hproviso : proviso → needs) :
    (P.visits view).Echoes proviso op.inVisit post where
  keeps x _ := by
    refine ⟨trivial, ?_⟩
    show (view x.2).issued ≤ (view (op x.2).2).issued
    rw [(h x.2).2]
    exact hf.grows _
  echo hp x y hxy hlimit := by
    obtain ⟨visit, s⟩ := x
    obtain ⟨_, t⟩ := y
    obtain ⟨rfl, hsession, hecho⟩ := hxy
    have hlimit' : (f (view s)).2.issued ≤ P.limit := by
      rw [← (h s).2]
      exact hlimit
    obtain ⟨hanswer, hecho', hpost⟩ := hf.echo (hproviso hp) _ _ hecho hlimit'
    refine ⟨?_, ⟨rfl, hsession, ?_⟩, ?_⟩
    · show (op t).1 = (op s).1
      rw [(h s).1, (h t).1, hanswer]
    · show P.Echo (view (op s).2) (view (op t).2)
      rw [(h s).2, (h t).2]
      exact hecho'
    · intro a ha
      have hok : (op s).1 = .ok a := ha
      rw [(h s).1] at hok
      cases hok
      exact hpost

end VisitOp

namespace Repository

open VisitOp Sessions.Pairing

variable {store : Store σ} (hstore : store.Prompt view)
include hstore

theorem openSession_echoes (c : SecurityContext) :
    (P.visits view).Echoes proviso (openSession store c) fun _ => True := by
  refine .seq (echoes_call hstore.create calls_create fun _ => trivial) fun id => ?_
  refine .seq (echoes_bind And.right) fun _ => ?_
  split
  · refine .seq (echoes_call (hstore.put id c) (calls_put id c) fun h => h.1.2) fun b => ?_
    split
    · exact Comparison.echoes_pure fun _ => trivial
    · exact Comparison.echoes_throw _
  · exact Comparison.echoes_pure fun _ => trivial

theorem keepWithoutSession_echoes (allow always : Bool) (c : SecurityContext) :
    (P.visits view).Echoes proviso (keepWithoutSession store allow always c) fun _ => True := by
  rw [keepWithoutSession]
  split
  · exact Comparison.echoes_pure fun _ => trivial
  split
  · exact Comparison.echoes_pure fun _ => trivial
  · exact openSession_echoes hstore c

theorem keepInSession_echoes {id : SessionId} (hid : proviso → ¬ P.foreign id) (c : SecurityContext) :
    (P.visits view).Echoes proviso (keepInSession store id c) fun _ => True := by
  rw [keepInSession]
  split
  · exact .discard (echoes_call (hstore.put id c) (calls_put id c) hid)
  · exact echoes_call (hstore.clear id) (calls_clear id) hid

theorem save_echoes (allow always : Bool) (c : SecurityContext) :
    (P.visits view).Echoes True ((inSession store allow always).save c) fun _ => True := by
  refine .seq echoes_visit fun visit => ?_
  split
  · exact keepWithoutSession_echoes hstore allow always c
  · rename_i id hid
    refine .seq (echoes_call (hstore.isLive id) (calls_touch id) fun h => h.2 id hid) fun live => ?_
    split
    · exact keepInSession_echoes hstore (fun h => h.1.2 id hid) c
    · exact keepWithoutSession_echoes hstore allow always c

theorem rotate_echoes (allow always : Bool) :
    (P.visits view).Echoes True (inSession store allow always).rotate fun _ => True := by
  refine .seq echoes_visit fun visit => ?_
  split
  · exact Comparison.echoes_pure fun _ => trivial
  · rename_i id hid
    refine .seq (echoes_call (hstore.rotate id) (calls_rotate id) fun h => h.2 id hid) fun rotated => ?_
    split
    · exact Comparison.echoes_pure fun _ => trivial
    · rename_i fresh
      exact .seq (echoes_bind fun h => h.2 fresh rfl) fun _ => Comparison.echoes_pure fun _ => trivial

/-- What is loaded is the same in both stores. -/
theorem load_echoes (allow always : Bool) (visit : Visit) :
    (P.visits view).Echoes (P.Own visit.session) ((inSession store allow always).load visit).inVisit fun _ => True := by
  cases hid : visit.session with
  | none =>
    have hload : ((inSession store allow always).load visit).inVisit = (pure .empty : VisitOp σ SecurityContext) := by
      funext ⟨v, s⟩
      simp [inSession, hid]
    rw [hload]
    exact Comparison.echoes_pure fun _ => trivial
  | some id =>
    have hload : ((inSession store allow always).load visit).inVisit =
        ((store.fetch id).inVisit >>= fun c => pure (c.getD .empty) : VisitOp σ SecurityContext) := by
      funext ⟨v, s⟩
      simp only [inSession, hid, Op.inVisit_apply, Steps.bind_apply]
      rcases store.fetch id s with ⟨e | c, t⟩ <;> rfl
    rw [hload]
    exact .seq (echoes_call (hstore.fetch id) (calls_fetch id) fun h => h id rfl) fun _ =>
      Comparison.echoes_pure fun _ => trivial

end Repository

end Visits

end Portcullis
