import Portcullis.Proofs.Session.Cookie
import Portcullis.Proofs.Session.Event
import Portcullis.Proofs.Session.Renewal

/-!
# Stores that refuse

A store in memory whose calls may be refused, each of them at any time; a call that is refused does nothing
(`Store.MayRefuse`). What a client reaches with its session id is the context of that session, if it is alive
(`Sessions.reach`). Where calls are refused in the middle of a save or a rotation, the client still reaches what it
reached on its arrival (`Arrival.Stands`), with the session that it is told of:

* `Repository.load_refusing`: after loading, which comes to what the client reaches, or fails;
* `Repository.rotate_refusing`: after a rotation, which takes the context along, or fails and leaves it where it was;
* `Repository.save_safe`: after a save that fails, whatever was to be saved, and after a save of what the client
  reaches anyway.
-/

namespace Portcullis

/-- How a request arrives, and what may become of the client's session on the way. -/
structure Arrival where
  /-- The sessions as they were then. -/
  sessions : Sessions
  request : Request
  /-- The session id that the request presents. -/
  presented : Option SessionId
  cookieName : String
  /-- May the context be given up? -/
  forgotten : Prop
  /-- May the session be moved to another id? -/
  moved : Prop

namespace Arrival

/-- What the client reaches on its arrival. -/
def context (a : Arrival) : SecurityContext :=
  a.sessions.reach a.presented

/-- Had nobody used the presented session since, it would be dead by now. -/
def Outlived (a : Arrival) (now : Nat) : Prop :=
  ∃ session limit, a.presented.bind a.sessions.live? = some session ∧ a.sessions.timeout = some limit ∧
    limit < now - min session.lastUsed a.sessions.now

/-- There may be nothing left to reach: there was nothing, or it has been given up, or its time is over. -/
def Lapsed (a : Arrival) (now : Nat) : Prop :=
  a.context = .empty ∨ a.forgotten ∨ a.Outlived now

/-- Time has passed since, and no id is held twice. -/
structure Since (a : Arrival) (s : Sessions) : Prop where
  timeout : s.timeout = a.sessions.timeout
  now : a.sessions.now ≤ s.now
  distinct : s.Distinct

/-- With this session the client reaches what it reached on its arrival, and has used it since no less; or it reaches
nothing, for a reason. -/
inductive Stands (a : Arrival) (s : Sessions) (session : Option SessionId) : Prop
  | held {held : Session} (hlive : session.bind s.live? = some held) (hcontext : held.context.getD .empty = a.context)
    (hused : ∀ x, a.presented.bind a.sessions.live? = some x → min x.lastUsed a.sessions.now ≤ held.lastUsed)
  | gone (hreach : s.reach session = .empty) (hlapsed : a.Lapsed s.now)

variable {a : Arrival} {s t : Sessions} {session : Option SessionId} {id : SessionId} {c : SecurityContext}

/-! ## Time -/

theorem Lapsed.mono (h : a.Lapsed s.now) (hnow : s.now ≤ t.now) : a.Lapsed t.now := by
  refine h.imp_right fun h => h.imp_right ?_
  rintro ⟨x, limit, hx, hlimit, hover⟩
  exact ⟨x, limit, hx, hlimit, by omega⟩

theorem Since.start (hd : a.sessions.Distinct) : a.Since a.sessions :=
  ⟨rfl, Nat.le_refl _, hd⟩

/-- Calls take no time. -/
theorem Since.congr (h : a.Since s) (hnow : t.now = s.now) (htimeout : t.timeout = s.timeout)
    (hd : s.Distinct → t.Distinct) : a.Since t :=
  ⟨htimeout.trans h.timeout, hnow ▸ h.now, hd h.distinct⟩

theorem Since.wait (h : a.Since s) (ms : Nat) : a.Since (s.wait ms) :=
  ⟨h.timeout, Nat.le_trans h.now (Nat.le_add_right _ _), h.distinct⟩

theorem reach_wait_of_empty (h : s.reach session = .empty) (ms : Nat) : (s.wait ms).reach session = .empty := by
  cases session with
  | none => rfl
  | some id =>
    simp only [Sessions.reach, Option.bind_some] at h ⊢
    rw [Sessions.live?_wait]
    cases hs : s.live? id with
    | none => rfl
    | some x =>
      rw [hs] at h
      rw [Option.filter_some]
      split
      · exact h
      · rfl

theorem Stands.reach (h : a.Stands s session) :
    s.reach session = a.context ∨ s.reach session = .empty ∧ a.Lapsed s.now := by
  cases h with
  | held hlive hcontext _ => exact .inl (by rw [Sessions.reach, hlive]; exact hcontext)
  | gone hreach hlapsed => exact .inr ⟨hreach, hlapsed⟩

theorem Stands.start (a : Arrival) : a.Stands a.sessions a.presented := by
  cases hx : a.presented.bind a.sessions.live? with
  | none =>
    have hempty : a.context = .empty := by rw [context, Sessions.reach, hx]; rfl
    exact .gone hempty (.inl hempty)
  | some x =>
    refine .held hx (by rw [context, Sessions.reach, hx]; rfl) fun x' hx' => ?_
    obtain rfl := Option.some.inj (hx.symm.trans hx')
    exact Nat.min_le_left _ _

/-- A session that has died of age was last used no earlier than on arrival. -/
theorem Stands.wait (h : a.Stands s session) (hsince : a.Since s) (ms : Nat) : a.Stands (s.wait ms) session := by
  have hnow : s.now ≤ (s.wait ms).now := Nat.le_add_right _ _
  cases h with
  | gone hreach hlapsed => exact .gone (reach_wait_of_empty hreach ms) (hlapsed.mono hnow)
  | @held y hlive hcontext hused =>
    obtain ⟨id, rfl, hid⟩ := Option.bind_eq_some_iff.1 hlive
    have hwait := s.live?_wait ms id
    rw [hid, Option.filter_some] at hwait
    cases hdead : (s.wait ms).isDead y with
    | false =>
      rw [hdead] at hwait
      exact .held hwait hcontext hused
    | true =>
      rw [hdead] at hwait
      have hreach : (s.wait ms).reach (some id) = .empty := by rw [Sessions.reach, Option.bind_some, hwait]; rfl
      refine .gone hreach ?_
      cases hx : a.presented.bind a.sessions.live? with
      | none => exact .inl (by rw [context, Sessions.reach, hx]; rfl)
      | some x =>
        obtain ⟨limit, hlimit, hover⟩ :
            ∃ limit, (s.wait ms).timeout = some limit ∧ limit < (s.wait ms).now - y.lastUsed := by
          simpa [Sessions.isDead, Option.any_eq_true] using hdead
        have hsooner := hused x hx
        exact .inr (.inr ⟨x, limit, hx, hsince.timeout.symm.trans hlimit, by omega⟩)

/-! ## Calls -/

/-- A call that leaves this session alone. -/
theorem Stands.congr (h : a.Stands s session) (hlive : session.bind t.live? = session.bind s.live?)
    (hnow : t.now = s.now) : a.Stands t session := by
  cases h with
  | held h hcontext hused => exact .held (hlive.trans h) hcontext hused
  | gone hreach hlapsed => exact .gone (by rw [Sessions.reach, hlive]; exact hreach) (hnow ▸ hlapsed)

/-- Where there is nothing alive, there is nothing to be reached, for a reason. -/
theorem Stands.lapsed (h : a.Stands s session) (hdead : session.bind s.live? = none) : a.Lapsed s.now := by
  cases h with
  | held hlive _ _ =>
    rw [hdead] at hlive
    cases hlive
  | gone _ hlapsed => exact hlapsed

theorem reach_touch (s : Sessions) (id : SessionId) (session : Option SessionId) :
    (s.touch id).2.reach session = s.reach session := by
  cases session with
  | none => rfl
  | some i =>
    simp only [Sessions.reach, Option.bind_some]
    rw [Sessions.live?_touch]
    split
    · rename_i hi
      rw [hi]
      cases s.live? id <;> rfl
    · rfl

/-- A session that is used has been used since the arrival. -/
theorem Since.used (h : a.Since s) (x : Session) : min x.lastUsed a.sessions.now ≤ s.now :=
  Nat.le_trans (Nat.min_le_right _ _) h.now

theorem Stands.touch (h : a.Stands s session) (hsince : a.Since s) (id : SessionId) :
    a.Stands (s.touch id).2 session := by
  cases h with
  | gone hreach hlapsed => exact .gone (by rw [reach_touch, hreach]) (by rw [Sessions.touch_now]; exact hlapsed)
  | @held y hlive hcontext hused =>
    obtain ⟨i, rfl, hi⟩ := Option.bind_eq_some_iff.1 hlive
    by_cases hsame : i = id
    · have htouched : (some i).bind (s.touch id).2.live? = some { y with lastUsed := s.now } := by
        rw [Option.bind_some, Sessions.live?_touch, if_pos hsame, ← hsame, hi]
        rfl
      exact .held htouched hcontext fun x _ => hsince.used x
    · have htouched : (some i).bind (s.touch id).2.live? = some y := by
        rw [Option.bind_some, Sessions.live?_touch, if_neg hsame, hi]
      exact .held htouched hcontext hused

/-- What the client reaches anyway is put into the session. -/
theorem Stands.put (hsince : a.Since s) (hput : (s.put id c).1 = true) (hc : c = a.context) :
    a.Stands (s.put id c).2 (some id) := by
  obtain ⟨y, hy⟩ := Option.isSome_iff_exists.1 ((s.put_fst id c).symm.trans hput)
  have hlive : (some id).bind (s.put id c).2.live? = some { context := some c, lastUsed := s.now } := by
    rw [Option.bind_some, Sessions.live?_put, if_pos rfl, hy]
    rfl
  exact .held hlive hc fun x _ => hsince.used x

/-- A rotation takes the context along. -/
theorem Stands.rotate (h : a.Stands s (some id)) (hsince : a.Since s) {fresh : SessionId}
    (hrotate : (s.rotate id).1 = some fresh) : a.Stands (s.rotate id).2 (some fresh) := by
  rw [Sessions.rotate_fst] at hrotate
  obtain ⟨y, hy, rfl⟩ := Option.map_eq_some_iff.1 hrotate
  have hlive : (some (s.supply s.issued)).bind (s.rotate id).2.live? = some { y with lastUsed := s.now } := by
    rw [Option.bind_some, Sessions.live?_rotate, hy]
    exact if_pos rfl
  cases h with
  | held hheld hcontext hused =>
    obtain rfl := Option.some.inj (hy.symm.trans hheld)
    exact .held hlive hcontext fun x _ => hsince.used x
  | gone hreach hlapsed =>
    obtain ⟨held, hrotated⟩ := s.exists_rotate id
    refine .gone ?_ (by rw [hrotated]; exact hlapsed)
    rw [Sessions.reach, hlive]
    rw [Sessions.reach, Option.bind_some, hy] at hreach
    exact hreach

theorem Since.touch (h : a.Since s) (id : SessionId) : a.Since (s.touch id).2 :=
  h.congr (s.touch_now id) (s.touch_timeout id) fun hd => hd.touch id

theorem Since.put (h : a.Since s) (id : SessionId) (c : SecurityContext) : a.Since (s.put id c).2 := by
  obtain ⟨held, hput⟩ := s.exists_put id c
  exact h.congr (by rw [hput]) (by rw [hput]) fun hd => hd.put id c

theorem Since.create (h : a.Since s) : a.Since s.create.2 := by
  obtain ⟨held, hcreate⟩ := s.exists_create
  exact h.congr (by rw [hcreate]) (by rw [hcreate]) fun hd => hd.create

theorem Since.rotate (h : a.Since s) (id : SessionId) : a.Since (s.rotate id).2 := by
  obtain ⟨held, hrotate⟩ := s.exists_rotate id
  exact h.congr (by rw [hrotate]) (by rw [hrotate]) fun hd => hd.rotate id

theorem Since.clear (h : a.Since s) (id : SessionId) : a.Since (s.clear id) :=
  h.congr rfl rfl fun hd => hd.modify id _

end Arrival

/-! ## Visits -/

namespace Arrival

/-- With the session that the client is told of it still reaches what it reached; with the one that it has presented it
does so too, unless that one has been moved. -/
structure Safe (a : Arrival) (visit : Visit) (s : Sessions) : Prop where
  request : visit.request = a.request
  cookieName : visit.cookieName = a.cookieName
  told : visit.Told a.presented
  since : a.Since s
  stands : a.Stands s visit.session
  presented : a.Stands s a.presented ∨ a.moved ∧ visit.session.isSome = true ∧ s.reach a.presented = .empty

/-- To keep this context does no harm: the client reaches it anyway, or nothing is lost by giving up what it reached. -/
def Fits (a : Arrival) (c : SecurityContext) (now : Nat) : Prop :=
  if c.isPersistable = true then c = a.context else a.Lapsed now

variable {a : Arrival} {visit : Visit} {s : Sessions} {id : SessionId} {c : SecurityContext}

theorem Safe.start (a : Arrival) (hd : a.sessions.Distinct) (hrequest : visit.request = a.request)
    (hname : visit.cookieName = a.cookieName) (hsession : visit.session = a.presented) (hpending : visit.pending = []) :
    a.Safe visit a.sessions where
  request := hrequest
  cookieName := hname
  told := .inl ⟨hsession, by rw [hpending]; rfl⟩
  since := .start hd
  stands := hsession ▸ .start a
  presented := .inl (.start a)

/-- Nothing is done about the session, but time may pass. -/
theorem Safe.wait {visit' : Visit} (h : a.Safe visit s) (hrequest : visit'.request = visit.request)
    (hname : visit'.cookieName = visit.cookieName) (hsession : visit'.session = visit.session)
    (hpending : visit'.pending.filter (Visit.isCookieField a.cookieName) =
      visit.pending.filter (Visit.isCookieField a.cookieName)) (ms : Nat) : a.Safe visit' (s.wait ms) where
  request := hrequest.trans h.request
  cookieName := hname.trans h.cookieName
  told := by
    have htold := h.told
    rw [Visit.Told, h.cookieName] at htold
    rw [Visit.Told, hname, h.cookieName, hsession, hpending]
    exact htold
  since := h.since.wait ms
  stands := hsession ▸ h.stands.wait h.since ms
  presented := h.presented.imp (·.wait h.since ms) fun hmoved =>
    ⟨hmoved.1, hsession ▸ hmoved.2.1, reach_wait_of_empty hmoved.2.2 ms⟩

theorem Safe.touch (h : a.Safe visit s) (id : SessionId) : a.Safe visit (s.touch id).2 where
  request := h.request
  cookieName := h.cookieName
  told := h.told
  since := h.since.touch id
  stands := h.stands.touch h.since id
  presented := by
    rw [reach_touch]
    exact h.presented.imp_left (·.touch h.since id)

/-- What becomes of the presented session by a call. -/
theorem Safe.presented_of {t : Sessions} (h : a.Safe visit s) (hnow : t.now = s.now)
    (hcall : ∀ i, t.live? i = s.live? i ∨ a.Stands t (some i) ∨ a.moved ∧ t.reach (some i) = .empty) :
    a.Stands t a.presented ∨ a.moved ∧ t.reach a.presented = .empty := by
  have hunchanged (hsame : a.presented.bind t.live? = a.presented.bind s.live?) :
      a.Stands t a.presented ∨ a.moved ∧ t.reach a.presented = .empty := by
    refine h.presented.imp (·.congr hsame hnow) fun hmoved => ⟨hmoved.1, ?_⟩
    rw [Sessions.reach, hsame]
    exact hmoved.2.2
  cases hp : a.presented with
  | none => exact hp ▸ hunchanged (by rw [hp]; rfl)
  | some i =>
    rcases hcall i with hsame | hdone
    · exact hp ▸ hunchanged (by rw [hp]; exact hsame)
    · exact hdone

theorem Safe.put (h : a.Safe visit s) (hsession : visit.session = some id) (hput : (s.put id c).1 = true)
    (hc : c = a.context) : a.Safe visit (s.put id c).2 := by
  obtain ⟨held, hheld⟩ := s.exists_put id c
  have hstands : a.Stands (s.put id c).2 (some id) := .put h.since hput hc
  refine ⟨h.request, h.cookieName, h.told, h.since.put id c, hsession ▸ hstands, ?_⟩
  refine (h.presented_of (by rw [hheld]) fun i => ?_).imp_right fun hmoved =>
    ⟨hmoved.1, by rw [hsession]; rfl, hmoved.2⟩
  by_cases hi : i = id
  · exact .inr (.inl (hi ▸ hstands))
  · exact .inl (by rw [Sessions.live?_put, if_neg hi])

/-- There is no session to put the context into. -/
theorem Safe.put_nowhere (h : a.Safe visit s) (hput : (s.put id c).1 = false) : a.Safe visit (s.put id c).2 := by
  rw [Sessions.put_fst] at hput
  rw [Sessions.put_snd, hput, if_neg Bool.false_ne_true]
  exact h.touch id

theorem Safe.clear (h : a.Safe visit s) (hsession : visit.session = some id) (hlapsed : a.Lapsed s.now) :
    a.Safe visit (s.clear id) := by
  have hstands : a.Stands (s.clear id) (some id) := by
    refine .gone ?_ hlapsed
    rw [Sessions.reach, Option.bind_some, Sessions.live?_clear, if_pos rfl]
    cases s.live? id <;> rfl
  refine ⟨h.request, h.cookieName, h.told, h.since.clear id, hsession ▸ hstands, ?_⟩
  have hnow : (s.clear id).now = s.now := rfl
  refine (h.presented_of hnow fun i => ?_).imp_right fun hmoved => ⟨hmoved.1, by rw [hsession]; rfl, hmoved.2⟩
  by_cases hi : i = id
  · exact .inr (.inl (hi ▸ hstands))
  · exact .inl (by rw [Sessions.live?_clear, if_neg hi])

/-- A session is opened where there was none alive. -/
theorem Safe.create (h : a.Safe visit s) (hlapsed : a.Lapsed s.now) :
    a.Safe (visit.bind s.create.1) s.create.2 := by
  obtain ⟨held, hheld⟩ := s.exists_create
  have hnow : s.create.2.now = s.now := by rw [hheld]
  have hstands : a.Stands s.create.2 (some s.create.1) := by
    refine .gone ?_ (hnow ▸ hlapsed)
    rw [Sessions.reach, Option.bind_some, Sessions.live?_create h.since.distinct, Sessions.create_fst, if_pos rfl]
    rfl
  refine ⟨h.request, h.cookieName, visit.told_bind a.presented _, h.since.create, hstands, ?_⟩
  refine (h.presented_of hnow fun i => ?_).imp_right fun hmoved => ⟨hmoved.1, rfl, hmoved.2⟩
  by_cases hi : i = s.create.1
  · exact .inr (.inl (hi ▸ hstands))
  · exact .inl (by rw [Sessions.live?_create h.since.distinct, if_neg (Sessions.create_fst s ▸ hi)])

/-- The session is moved. -/
theorem Safe.rotate (h : a.Safe visit s) (hmoved : a.moved) (hsession : visit.session = some id) {fresh : SessionId}
    (hrotate : (s.rotate id).1 = some fresh) : a.Safe (visit.bind fresh) (s.rotate id).2 := by
  obtain ⟨held, hheld⟩ := s.exists_rotate id
  have hstands : a.Stands (s.rotate id).2 (some fresh) := Stands.rotate (hsession ▸ h.stands) h.since hrotate
  refine ⟨h.request, h.cookieName, visit.told_bind a.presented _, h.since.rotate id, hstands, ?_⟩
  refine (h.presented_of (by rw [hheld]) fun i => ?_).imp_right fun hgone => ⟨hmoved, rfl, hgone.2⟩
  by_cases hfresh : i = fresh
  · exact .inr (.inl (hfresh ▸ hstands))
  rw [Sessions.rotate_fst] at hrotate
  obtain ⟨y, hy, rfl⟩ := Option.map_eq_some_iff.1 hrotate
  have hlive := s.live?_rotate id i
  simp only [hy, if_neg hfresh] at hlive
  by_cases hi : i = id
  · refine .inr (.inr ⟨hmoved, ?_⟩)
    rw [Sessions.reach, Option.bind_some, hlive, if_pos hi]
    rfl
  · exact .inl (hlive.trans (if_neg hi))

end Arrival

/-! ## The repository of sessions -/

section Stores

variable {σ α : Type}

/-- The call does to the sessions what `f` does to them, or it is refused and does nothing. -/
def Op.MayRefuse (op : Op σ α) (view : σ → Sessions) (f : Sessions → α × Sessions) : Prop :=
  ∀ s, (op s).1 = .ok (f (view s)).1 ∧ view (op s).2 = (f (view s)).2 ∨
    ∃ e, (op s).1 = .error e ∧ view (op s).2 = view s

/-- The store keeps its sessions in memory, where `view` finds them; each of its calls may be refused. -/
structure Store.MayRefuse (store : Store σ) (view : σ → Sessions) : Prop where
  create : store.create.MayRefuse view Sessions.create
  isLive : ∀ id, (store.isLive id).MayRefuse view (·.touch id)
  fetch : ∀ id, (store.fetch id).MayRefuse view (·.fetch id)
  put : ∀ id c, (store.put id c).MayRefuse view (·.put id c)
  clear : ∀ id, (store.clear id).MayRefuse view fun s => ((), s.clear id)
  invalidate : ∀ id, (store.invalidate id).MayRefuse view fun s => ((), s.erase id)
  rotate : ∀ id, (store.rotate id).MayRefuse view (·.rotate id)

theorem Op.MayRefuse.cases {op : Op σ α} {view : σ → Sessions} {f : Sessions → α × Sessions} (h : op.MayRefuse view f)
    (s : σ) : (∃ t, op s = (.ok (f (view s)).1, t) ∧ view t = (f (view s)).2) ∨
      ∃ e t, op s = (.error e, t) ∧ view t = view s :=
  (h s).imp (fun h => ⟨(op s).2, Prod.ext h.1 rfl, h.2⟩) fun ⟨e, h⟩ => ⟨e, (op s).2, Prod.ext h.1 rfl, h.2⟩

/-- The call, unless it is refused. -/
def Op.unless (op : Op σ α) (refused : Bool) : Op σ α :=
  if refused then throw ⟨"store", "refused"⟩ else op

/-- The sessions in memory as a store that refuses some calls. -/
def Sessions.refusing (refused : StoreEvent → Bool) : Store Sessions where
  create := store.create.unless (refused .create)
  isLive id := (store.isLive id).unless (refused (.isLive id))
  fetch id := (store.fetch id).unless (refused (.fetch id))
  put id c := (store.put id c).unless (refused (.put id c))
  clear id := (store.clear id).unless (refused (.clear id))
  invalidate id := (store.invalidate id).unless (refused (.invalidate id))
  rotate id := (store.rotate id).unless (refused (.rotate id))

theorem Op.Mirrors.unless {op : Op σ α} {view : σ → Sessions} {f : Sessions → α × Sessions} (h : op.Mirrors view f)
    (refused : Bool) : (op.unless refused).MayRefuse view f := by
  intro s
  cases refused with
  | false => exact .inl (h s)
  | true => exact .inr ⟨⟨"store", "refused"⟩, rfl, rfl⟩

theorem Sessions.mayRefuse_refusing (refused : StoreEvent → Bool) : (refusing refused).MayRefuse id where
  create := store_prompt.create.unless _
  isLive i := (store_prompt.isLive i).unless _
  fetch i := (store_prompt.fetch i).unless _
  put i c := (store_prompt.put i c).unless _
  clear i := (store_prompt.clear i).unless _
  invalidate i := (store_prompt.invalidate i).unless _
  rotate i := (store_prompt.rotate i).unless _

namespace Repository

variable {store : Store σ} {view : σ → Sessions} {a : Arrival} {visit : Visit} {s : σ} {id : SessionId}
  {c : SecurityContext}

/-- What loading comes to: the context that the client reaches, or an error. -/
theorem load_refusing (hstore : store.MayRefuse view) (allow always : Bool) (h : a.Safe visit (view s)) :
    ∃ result t, (inSession store allow always).load visit s = (result, t) ∧ a.Safe visit (view t) ∧
      ∀ c, result = .ok c → c = a.context ∨ c.isPersistable = false ∧ a.Lapsed (view t).now := by
  have hreach := h.stands.reach
  cases hid : visit.session with
  | none =>
    refine ⟨.ok .empty, s, by simp [inSession, hid], h, ?_⟩
    rintro _ ⟨⟩
    rw [hid] at hreach
    exact hreach.imp (fun h => h) fun h => ⟨rfl, h.2⟩
  | some id =>
    rw [hid] at hreach
    rcases (hstore.fetch id).cases s with ⟨t, hfetch, hview⟩ | ⟨e, t, hfetch, hview⟩
    · rw [Sessions.fetch_snd] at hview
      refine ⟨.ok ((view s).reach (some id)), t, ?_, hview ▸ h.touch id, ?_⟩
      · simp [inSession, hid, hfetch, Except.map, Sessions.reach, Sessions.fetch_fst]
      · rintro _ ⟨⟩
        rw [hview, Sessions.touch_now]
        exact hreach.imp (fun h => h) fun h => ⟨by rw [h.1]; rfl, h.2⟩
    · refine ⟨.error e, t, by simp [inSession, hid, hfetch, Except.map], hview ▸ h, ?_⟩
      rintro _ ⟨⟩

/-- A rotation moves the session, or it does nothing. -/
theorem rotate_refusing (hstore : store.MayRefuse view) (allow always : Bool) (h : a.Safe visit (view s))
    (hmoved : a.moved) :
    (∃ b visit' t, (inSession store allow always).rotate (visit, s) = (.ok b, (visit', t)) ∧ a.Safe visit' (view t)) ∨
      ∃ e t, (inSession store allow always).rotate (visit, s) = (.error e, (visit, t)) ∧ view t = view s := by
  cases hid : visit.session with
  | none => exact .inl ⟨false, visit, s, by simp [inSession, hid], h⟩
  | some id =>
    rcases (hstore.rotate id).cases s with ⟨t, hrotate, hview⟩ | ⟨e, t, hrotate, hview⟩
    · refine .inl ?_
      cases hfresh : ((view s).rotate id).1 with
      | none =>
        rw [hfresh] at hrotate
        refine ⟨false, visit, t, by simp [inSession, hid, hrotate], ?_⟩
        have hdead : (view s).live? id = .none := by simpa [Sessions.rotate_fst] using hfresh
        rw [Sessions.rotate_snd, hdead] at hview
        exact hview ▸ h.touch id
      | some fresh =>
        rw [hfresh] at hrotate
        exact ⟨true, visit.bind fresh, t, by simp [inSession, hid, hrotate, Except.map],
          hview ▸ h.rotate hmoved hid hfresh⟩
    · exact .inr ⟨e, t, by simp [inSession, hid, hrotate], hview⟩

/-- The save comes to an end, and if it fails, or if what it was to keep fits, the client still reaches what it did. -/
def Spares (view : σ → Sessions) (a : Arrival) (c : SecurityContext) (now : Nat)
    (outcome : Except RepositoryError Unit × Visit × σ) : Prop :=
  (∃ e, outcome.1 = .error e) ∨ a.Fits c now → a.Safe outcome.2.1 (view outcome.2.2)

/-- A put into the session of the client. If it is refused, or finds no session, all is as it was. -/
theorem put_refusing (hstore : store.MayRefuse view) (h : a.Safe visit (view s)) (hid : visit.session = some id)
    (c : SecurityContext) :
    ∃ result t, store.put id c s = (result, t) ∧ ((result = .ok true → c = a.context) → a.Safe visit (view t)) := by
  rcases (hstore.put id c).cases s with ⟨t, hput, hview⟩ | ⟨e, t, hput, hview⟩
  · refine ⟨_, t, hput, fun hfits => ?_⟩
    rw [hview]
    cases hstored : ((view s).put id c).1 with
    | true => exact h.put hid hstored (hfits (by rw [hstored]))
    | false => exact h.put_nowhere hstored
  · exact ⟨.error e, t, hput, fun _ => hview ▸ h⟩

theorem openSession_safe (hstore : store.MayRefuse view) (h : a.Safe visit (view s)) (hlapsed : a.Lapsed (view s).now)
    (c : SecurityContext) : Spares view a c (view s).now (openSession store c (visit, s)) := by
  rcases hstore.create.cases s with ⟨t, hcreate, hview⟩ | ⟨e, t, hcreate, hview⟩
  · have hopened := h.create hlapsed
    rw [← hview] at hopened
    cases hc : c.isPersistable with
    | false => simpa [openSession, hcreate, hc, Spares] using fun _ => hopened
    | true =>
      obtain ⟨result, u, hput, hkept⟩ := put_refusing hstore hopened rfl c
      have hsame (hfits : a.Fits c (view s).now) : c = a.context := by rwa [Arrival.Fits, if_pos hc] at hfits
      rcases result with e | _ | _
      · simpa [openSession, hcreate, hc, hput, Spares] using hkept
      · simpa [openSession, hcreate, hc, hput, Spares] using hkept
      · simpa [openSession, hcreate, hc, hput, Spares] using fun hfits => hkept fun _ => hsame hfits
  · rw [← hview] at h
    simpa [openSession, hcreate, Spares] using h

theorem keepWithoutSession_safe (hstore : store.MayRefuse view) (allow always : Bool) (h : a.Safe visit (view s))
    (hlapsed : a.Lapsed (view s).now) (c : SecurityContext) :
    Spares view a c (view s).now (keepWithoutSession store allow always c (visit, s)) := by
  rw [keepWithoutSession]
  split
  · exact fun _ => h
  split
  · exact fun _ => h
  · exact openSession_safe hstore h hlapsed c

theorem keepInSession_safe (hstore : store.MayRefuse view) (h : a.Safe visit (view s)) (hid : visit.session = some id)
    (c : SecurityContext) : Spares view a c (view s).now (keepInSession store id c (visit, s)) := by
  rw [keepInSession]
  split
  · rename_i hc
    obtain ⟨result, t, hput, hkept⟩ := put_refusing hstore h hid c
    have hsame (hfits : a.Fits c (view s).now) : c = a.context := by rwa [Arrival.Fits, if_pos hc] at hfits
    rcases result with e | _ | _
    · simpa [hput, Except.map, Spares] using hkept
    · simpa [hput, Except.map, Spares] using fun _ => hkept
    · simpa [hput, Except.map, Spares] using fun hfits => hkept fun _ => hsame hfits
  · rename_i hc
    rcases (hstore.clear id).cases s with ⟨t, hclear, hview⟩ | ⟨e, t, hclear, hview⟩
    · rintro (⟨e, he⟩ | hfits)
      · simp [hclear] at he
      · rw [Arrival.Fits, if_neg hc] at hfits
        have hkept := h.clear hid hfits
        simp only at hview
        rw [← hview] at hkept
        simpa [hclear] using hkept
    · rw [← hview] at h
      simpa [hclear, Spares] using h

/-- After a save that fails, and after a save of what fits, the client still reaches what it did. -/
theorem save_safe (hstore : store.MayRefuse view) (allow always : Bool) (h : a.Safe visit (view s))
    (c : SecurityContext) : Spares view a c (view s).now ((inSession store allow always).save c (visit, s)) := by
  cases hid : visit.session with
  | none =>
    have hlapsed := h.stands.lapsed (by rw [hid]; rfl)
    simpa [inSession, hid] using keepWithoutSession_safe hstore allow always h hlapsed c
  | some id =>
    rcases (hstore.isLive id).cases s with ⟨t, hlive, hview⟩ | ⟨e, t, hlive, hview⟩
    · have htouched := h.touch id
      rw [← hview] at htouched
      have hnow : (view t).now = (view s).now := by rw [hview, Sessions.touch_now]
      rw [← hnow]
      cases halive : ((view s).touch id).1 with
      | true =>
        rw [halive] at hlive
        simpa [inSession, hid, hlive] using keepInSession_safe hstore htouched hid c
      | false =>
        rw [halive] at hlive
        rw [Sessions.touch_fst] at halive
        have hlapsed := h.stands.lapsed (by rw [hid]; simpa using halive)
        rw [← hnow] at hlapsed
        simpa [inSession, hid, hlive] using keepWithoutSession_safe hstore allow always htouched hlapsed c
    · rw [← hview] at h
      simpa [inSession, hid, hlive, Spares] using h

end Repository

end Stores

end Portcullis
