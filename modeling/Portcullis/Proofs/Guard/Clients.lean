import Mathlib.Data.Set.Function
import Mathlib.Order.Interval.Set.Defs
import Portcullis.Proofs.Guard.SaveModes
import Portcullis.Proofs.Pipeline.Pairing
import Portcullis.Proofs.Session.Roster

/-!
# Clients that do not interfere

Several clients send requests to one guard, whose chains keep contexts in one store of sessions. Their requests come in
one after the other, and time passes between them. No client presents an id that has been issued to another. Then each
of them gets the answers that it would get if it were alone, at the same times and with a store that issues it the same
ids (`Guard.answers_as_if_alone`): it cannot notice the logins of the others, nor their sessions and when these die, nor
the sweeps that come earlier for all the sessions that others open.

* `Guard.runRequest_echo`: one request, served over two stores.
* `Sessions.Accounts`, `Sessions.Linked`: what requests and the passing of time keep up between the two stores.
* `Guard.Apart`: what one more happening keeps up for the client, and so all that happens (`Guard.apart_of_ownIdsOnly`).
-/

namespace Portcullis

variable {σ ι : Type} {view : σ → Sessions} {store : Store σ}

/-! ## Discreet guards -/

/-- What has been asked for keeps contexts in sessions of the store, or nowhere, and what the host adds is discreet. -/
structure Blueprint.Discreet (view : σ → Sessions) (store : Store σ) (b : Blueprint σ) : Prop where
  repository : ∀ r, b.context.repository = some r → r.Over store
  added : ∀ entry ∈ b.added, entry.2.Discreet view store
  wrappers : ∀ wrapper ∈ b.wrappers, ∀ stage : Stage σ, stage.Discreet view store → (wrapper stage).Discreet view store

theorem Blueprint.Plain.discreet {b : Blueprint σ} (h : b.Plain) (hr : b.context.repository = none) :
    b.Discreet view store where
  repository r h' := by simp [hr] at h'
  added := by simp [h.added]
  wrappers := by simp [h.wrappers]

theorem Blueprint.stages_discreet {b : Blueprint σ} {shared : Shared σ} {c : Chain σ}
    (hb : b.Discreet view shared.store) (h : b.build shared = .ok c) :
    ∀ stage ∈ c.stages, stage.Discreet view shared.store := by
  refine forall_mem_stages hb.wrappers hb.added (fun plan hfound stage hstage => ?_) h
  rcases Plan.mem_stages.1 hstage with ⟨-, rfl⟩ | ⟨-, rfl⟩ | ⟨c, -, rfl⟩ | ⟨c, hc, rfl⟩ | ⟨f, -, rfl⟩ |
    ⟨basic, -, rfl⟩ | ⟨-, rfl⟩ | ⟨a, -, rfl⟩
  · exact .tracing
  · exact .metrics
  · exact .cors ..
  · have hover := hfound.over hb.repository hc
    rcases c with ⟨_ | _, repository⟩
    · exact .autoSave hover
    · exact .explicitSave hover
  · exact .formLogin ..
  · exact .httpBasic ..
  · exact .anonymous
  · exact .authorization ..

namespace Guard

/-- Every chain has been built over the store, for a discreet host. -/
def Discreet (view : σ → Sessions) (store : Store σ) (g : Guard σ) : Prop :=
  ∀ c ∈ g.chains, ∃ (b : Blueprint σ) (shared : Shared σ),
    shared.store = store ∧ b.Discreet view store ∧ b.build shared = .ok c

variable [Clocked σ] {P : Sessions.Pairing} {g : Guard σ} {handler : Flow σ Response} {r : Request} {d d' : Desk σ}

theorem Discreet.echoes (hg : g.Discreet view store) (hstore : store.Prompt view) (hhandler : handler.Discreet view) :
    (P.passages view store).Echoes True (g.execute handler) fun _ => True := by
  refine Flow.echoes_request fun r => ?_
  split
  · rename_i c hc
    obtain ⟨b, shared, rfl, hb, hbuild⟩ := hg c (List.mem_of_find?_eq_some hc)
    exact Pipeline.echoes hstore hhandler (Blueprint.stages_discreet hb hbuild)
  · exact hhandler.echoes hstore

/-- Ids are issued while a request is served, and none is taken back. -/
theorem issued_le_runRequest (hg : g.Discreet view store) (hstore : store.Prompt view)
    (hhandler : handler.Discreet view) (r : Request) (d : Desk σ) :
    (view d.backend).issued ≤ (view (g.runRequest handler r d).2.2.backend).issued := by
  -- growth is a matter of the first run alone, so any pairing does
  let P : Sessions.Pairing := ⟨view d.backend, view d.backend, fun _ => False, 0, rfl, fun _ h => absurd h (by omega)⟩
  have hechoes : (P.passages view store).Echoes True (g.execute handler) fun _ => True :=
    hg.echoes hstore hhandler
  exact (hechoes.keeps ⟨g.newExchange r, d.metrics, d.backend⟩ ⟨nofun, nofun⟩).2

/-- A request that is served over both stores comes to the same outcome and the same exchange. -/
theorem runRequest_echo (hg : g.Discreet view store) (hstore : store.Prompt view) (hhandler : handler.Discreet view)
    (hpresented : P.Own (g.presented r)) (hstart : P.Echo (view d.backend) (view d'.backend))
    (hlimit : (view (g.runRequest handler r d).2.2.backend).issued ≤ P.limit) :
    (g.runRequest handler r d').1 = (g.runRequest handler r d).1 ∧
      (g.runRequest handler r d').2.1 = (g.runRequest handler r d).2.1 ∧
      P.Echo (view (g.runRequest handler r d).2.2.backend) (view (g.runRequest handler r d').2.2.backend) := by
  have hechoes : (P.passages view store).Echoes True (g.execute handler) fun _ => True :=
    hg.echoes hstore hhandler
  obtain ⟨houtcome, ⟨-, hexchange, -, hecho⟩, -⟩ := hechoes.echo trivial ⟨g.newExchange r, d.metrics, d.backend⟩
    ⟨g.newExchange r, d'.metrics, d'.backend⟩ ⟨⟨nofun, nofun⟩, rfl, hpresented, hstart⟩ hlimit
  exact ⟨houtcome, hexchange, hecho⟩

end Guard

/-! ## Which ids belong to whom -/

namespace Sessions

variable {s t s' t' base start : Sessions} {issued : ι → List SessionId} {i j : ι} {id : SessionId} {n limit : Nat}

/-- The ids that have been issued on the way from `s` to `t`, in order. -/
def newIds (s t : Sessions) : List SessionId :=
  (List.range (t.issued - s.issued)).map fun n => s.supply (s.issued + n)

theorem mem_newIds : id ∈ s.newIds t ↔ s.Issues t id := by
  simp only [newIds, List.mem_map, List.mem_range]
  constructor
  · rintro ⟨n, hn, rfl⟩
    exact ⟨s.issued + n, by omega, by omega, rfl⟩
  · rintro ⟨n, hn, hn', rfl⟩
    exact ⟨n - s.issued, by omega, by rw [Nat.add_sub_cancel' hn]⟩

theorem Draws.length_newIds (h : s.Draws n t) : (s.newIds t).length = n := by
  rw [newIds, List.length_map, List.length_range, h.issued, Nat.add_sub_cancel_left]

theorem getElem?_newIds (h : s.issued + n < t.issued) : (s.newIds t)[n]? = some (s.supply (s.issued + n)) := by
  have hn : n < t.issued - s.issued := by omega
  simp [newIds, hn]

/-- It has been issued to another client. -/
def Foreign (issued : ι → List SessionId) (i : ι) (id : SessionId) : Prop :=
  ∃ k, k ≠ i ∧ id ∈ issued k

/-- The accounts of who has been issued what are right: all of it has come from the supply, and nothing else is
alive. -/
structure Accounts (start : Sessions) (issued : ι → List SessionId) (s : Sessions) : Prop where
  supply : s.supply = start.supply
  distinct : s.Distinct
  known : ∀ k, ∀ id ∈ issued k, ∃ n, n < s.issued ∧ id = start.supply n
  lives : ∀ id, (s.live? id).isSome = true → ∃ k, id ∈ issued k

/-- The second store is there for one client alone: it has issued as many ids since the start as the client has been
issued by the first one, and it holds the same sessions as the first, as far as these do not belong to others. -/
structure Linked (start : Sessions) (issued : ι → List SessionId) (i : ι) (s t : Sessions) : Prop where
  supply : t.supply = start.supply
  drawn : t.issued = start.issued + (issued i).length
  distinct : t.Distinct
  now : t.now = s.now
  timeout : t.timeout = s.timeout
  own : ∀ id, ¬ Foreign issued i id → t.live? id = s.live? id

/-- Who has been issued what, after a request of `j` that has led from `s` to `s'`. -/
def credit [DecidableEq ι] (issued : ι → List SessionId) (j : ι) (s s' : Sessions) (k : ι) : List SessionId :=
  issued k ++ if j = k then s.newIds s' else []

namespace Accounts

/-- An id that is yet to be issued has not been issued to anybody. -/
theorem not_foreign (h : base.Accounts issued s) (hfresh : Set.InjOn base.supply (Set.Iio limit)) (j : ι)
    (hn : s.issued + n < limit) : ¬ Foreign issued j (s.supply (s.issued + n)) := by
  rintro ⟨k, -, hk⟩
  obtain ⟨m, hm, heq⟩ := h.known k _ hk
  rw [h.supply] at heq
  have hsame : s.issued + n = m := hfresh (Set.mem_Iio.2 hn) (Set.mem_Iio.2 (by omega)) heq
  omega

/-- An id that has been issued to nobody is not alive. -/
theorem live?_eq_none (h : base.Accounts issued s) (hnobody : ∀ k, id ∉ issued k) : s.live? id = none := by
  refine Option.not_isSome_iff_eq_none.1 fun hlive => ?_
  obtain ⟨k, hk⟩ := h.lives id hlive
  exact hnobody k hk

/-- The store beside itself, on behalf of one client. -/
def mirror (h : base.Accounts issued s) (hfresh : Set.InjOn base.supply (Set.Iio limit)) (j : ι) : Pairing where
  shared := s
  alone := s
  foreign := Foreign issued j
  limit := limit
  now := rfl
  fresh _ hn := ⟨h.not_foreign hfresh j hn, rfl⟩

theorem echo_mirror (h : base.Accounts issued s) (hfresh : Set.InjOn base.supply (Set.Iio limit)) (j : ι) :
    (h.mirror hfresh j).Echo s s where
  drawn := ⟨0, .refl s, .refl s⟩
  distinct := h.distinct
  distinct' := h.distinct
  own _ _ := rfl
  others _ _ := rfl
  lives _ hi := .inl hi

variable [DecidableEq ι]

/-- A request keeps the accounts right. -/
theorem request (h : base.Accounts issued s) {hfresh : Set.InjOn base.supply (Set.Iio limit)}
    (hecho : (h.mirror hfresh j).Echo s' t') : base.Accounts (s.credit issued j s') s' where
  supply := by
    obtain ⟨n, hdrawn, -⟩ := hecho.drawn
    exact hdrawn.supply.trans h.supply
  distinct := hecho.distinct
  known k id hid := by
    obtain ⟨n, hdrawn, -⟩ := hecho.drawn
    have hissued : s'.issued = s.issued + n := hdrawn.issued
    rcases List.mem_append.1 hid with hold | hnew
    · obtain ⟨m, hm, rfl⟩ := h.known k id hold
      exact ⟨m, by omega, rfl⟩
    · split at hnew
      · obtain ⟨m, -, hm, rfl⟩ := mem_newIds.1 hnew
        exact ⟨m, hm, by rw [h.supply]⟩
      · cases hnew
  lives id hid := by
    rcases hecho.lives id hid with hold | hnew
    · obtain ⟨k, hk⟩ := h.lives id hold
      exact ⟨k, List.mem_append_left _ hk⟩
    · refine ⟨j, List.mem_append_right _ ?_⟩
      rw [if_pos rfl]
      exact mem_newIds.2 hnew

omit [DecidableEq ι] in
theorem wait (h : base.Accounts issued s) (ms : Nat) : base.Accounts issued (s.wait ms) where
  supply := h.supply
  distinct := h.distinct
  known := h.known
  lives id hid := by
    rw [live?_wait] at hid
    refine h.lives id ?_
    cases hlive : s.live? id with
    | none => simp [hlive] at hid
    | some session => rfl

end Accounts

namespace Linked

/-- The two stores side by side, as a request of the client comes in. -/
def pairing (h : start.Linked issued i s t) (haccounts : base.Accounts issued s)
    (hfresh : Set.InjOn base.supply (Set.Iio limit))
    (hids : ∀ n, s.issued + n < limit →
      start.supply (start.issued + ((issued i).length + n)) = s.supply (s.issued + n)) : Pairing where
  shared := s
  alone := t
  foreign := Foreign issued i
  limit := limit
  now := h.now
  fresh n hn := by
    refine ⟨haccounts.not_foreign hfresh i hn, ?_⟩
    rw [h.supply, h.drawn, Nat.add_assoc]
    exact hids n hn

variable {haccounts : base.Accounts issued s} {hfresh : Set.InjOn base.supply (Set.Iio limit)}

theorem echo_pairing (h : start.Linked issued i s t)
    {hids : ∀ n, s.issued + n < limit →
      start.supply (start.issued + ((issued i).length + n)) = s.supply (s.issued + n)} :
    (h.pairing haccounts hfresh hids).Echo s t where
  drawn := ⟨0, .refl s, .refl t⟩
  distinct := haccounts.distinct
  distinct' := h.distinct
  own := h.own
  others _ _ := rfl
  lives _ hi := .inl hi

variable [DecidableEq ι]

/-- A request of the client itself, served over both stores. -/
theorem request (h : start.Linked issued i s t)
    {hids : ∀ n, s.issued + n < limit →
      start.supply (start.issued + ((issued i).length + n)) = s.supply (s.issued + n)}
    (hecho : (h.pairing haccounts hfresh hids).Echo s' t') : start.Linked (s.credit issued i s') i s' t' := by
  obtain ⟨n, hs, ht⟩ := hecho.drawn
  refine ⟨ht.supply.trans h.supply, ?_, hecho.distinct', hecho.now, ?_, fun id hid => hecho.own id fun hforeign => ?_⟩
  · have hissued : t'.issued = t.issued + n := ht.issued
    have hlength : (s.newIds s').length = n := hs.length_newIds
    rw [credit, if_pos rfl, List.length_append, hlength, hissued, h.drawn, Nat.add_assoc]
  · exact ht.timeout.trans (h.timeout.trans hs.timeout.symm)
  · obtain ⟨k, hk, hmem⟩ := hforeign
    exact hid ⟨k, hk, List.mem_append_left _ hmem⟩

/-- A request of another client. It changes none of the sessions that belong to this one, and opens none that this one
could know of. -/
theorem request_of_other (h : start.Linked issued i s t) (hji : j ≠ i)
    (hecho : (haccounts.mirror hfresh j).Echo s' t') : start.Linked (s.credit issued j s') i s' t := by
  obtain ⟨n, hs, -⟩ := hecho.drawn
  refine ⟨h.supply, ?_, h.distinct, h.now.trans hs.now.symm, h.timeout.trans hs.timeout.symm, fun id hid => ?_⟩
  · rw [credit, if_neg hji, List.append_nil]
    exact h.drawn
  · have hold : ¬ Foreign issued i id := by
      rintro ⟨k, hk, hmem⟩
      exact hid ⟨k, hk, List.mem_append_left _ hmem⟩
    rw [h.own id hold]
    by_cases hmine : Foreign issued j id
    · exact (hecho.others id hmine).symm
    -- the id has been issued to nobody, neither before the request nor by it, so it is alive neither before nor after
    · have hnobody : ∀ k, id ∉ issued k := by
        intro k hk
        by_cases hkj : k = j
        · exact hold ⟨k, hkj ▸ hji, hk⟩
        · exact hmine ⟨k, hkj, hk⟩
      have hnobody' : ∀ k, id ∉ s.credit issued j s' k := by
        intro k hk
        by_cases hki : k = i
        · rw [credit, if_neg fun hjk => hji (hjk.trans hki), List.append_nil] at hk
          exact hnobody k hk
        · exact hid ⟨k, hki, hk⟩
      have hdead : s.live? id = none := haccounts.live?_eq_none hnobody
      have hdead' : s'.live? id = none := (haccounts.request hecho).live?_eq_none hnobody'
      rw [hdead, hdead']

omit [DecidableEq ι] in
theorem wait (h : start.Linked issued i s t) (ms : Nat) : start.Linked issued i (s.wait ms) (t.wait ms) where
  supply := h.supply
  drawn := h.drawn
  distinct := h.distinct
  now := congrArg (· + ms) h.now
  timeout := h.timeout
  own id hid := by
    have hnow : (t.wait ms).now = (s.wait ms).now := congrArg (· + ms) h.now
    have htimeout : (t.wait ms).timeout = (s.wait ms).timeout := h.timeout
    have hdead : (t.wait ms).isDead = (s.wait ms).isDead := by
      funext session
      rw [isDead, isDead, hnow, htimeout]
    rw [live?_wait, live?_wait, h.own id hid, hdead]

end Linked

end Sessions

/-! ## Runs -/

namespace Guard

variable (view) in
/-- The host is discreet, or time passes, the same however things stand behind the pipeline. -/
def Event.Discreet : Event σ → Prop
  | .request _ handler => handler.Discreet view
  | .meanwhile f => ∃ ms, ∀ s, view (f s) = (view s).wait ms

/-- An event, and the client that it is a request of, if it is one. -/
inductive Happening (ι σ : Type)
  /-- A request of a client comes in, and the handler is the one to start for it. -/
  | request (client : ι) (r : Request) (handler : Flow σ Response)
  /-- Something else happens behind the pipeline, such as the passing of time. -/
  | meanwhile (f : σ → σ)

/-- What happens, whoever the client is. -/
def Happening.event : Happening ι σ → Event σ
  | .request _ r handler => .request r handler
  | .meanwhile f => .meanwhile f

variable [DecidableEq ι]

/-- Does it happen to the client when it is alone? -/
def Happening.concerns (i : ι) : Happening ι σ → Bool
  | .request j _ _ => j = i
  | .meanwhile _ => true

/-- What the guard is at work on after all this, the latest of which stands first. -/
def afterAll [Clocked σ] (g : Guard σ) (d : Desk σ) (history : List (Happening ι σ)) : Desk σ :=
  g.after d (history.map (·.event))

/-- The ids that have been issued in requests of each client, the earliest first. -/
def issuedTo [Clocked σ] (g : Guard σ) (view : σ → Sessions) (d : Desk σ) : List (Happening ι σ) → ι → List SessionId
  | [] => fun _ => []
  | .request j r handler :: past =>
    (view (g.afterAll d past).backend).credit (g.issuedTo view d past) j
      (view (g.runRequest handler r (g.afterAll d past)).2.2.backend)
  | .meanwhile _ :: past => g.issuedTo view d past

/-- What a client has got for its requests, from `handle` and from `serve`, the latest first. -/
def answersTo [Clocked σ] (g : Guard σ) (d : Desk σ) (i : ι) :
    List (Happening ι σ) → List (Except Failure Response × Response)
  | [] => []
  | .request j r handler :: past =>
    if j = i then
      ((g.handle handler r (g.afterAll d past)).1, (g.serve handler r (g.afterAll d past)).1) :: g.answersTo d i past
    else g.answersTo d i past
  | .meanwhile _ :: past => g.answersTo d i past

/-- No client presents an id that has been issued to another: it presents none, one of its own, or one that has not been
issued to anybody. -/
def OwnIdsOnly [Clocked σ] (g : Guard σ) (view : σ → Sessions) (d : Desk σ) : List (Happening ι σ) → Prop
  | [] => True
  | .request j r _ :: past =>
    (∀ id, g.presented r = some id → ¬ Sessions.Foreign (g.issuedTo view d past) j id) ∧ g.OwnIdsOnly view d past
  | .meanwhile _ :: past => g.OwnIdsOnly view d past

variable (view) in
/-- A desk at which a client is alone: at the same time, with no sessions yet, and with these ids to issue. -/
structure Desk.Alone (d : Desk σ) (ids : List SessionId) (d' : Desk σ) : Prop where
  now : (view d'.backend).now = (view d.backend).now
  timeout : (view d'.backend).timeout = (view d.backend).timeout
  vacant : (view d'.backend).held = []
  issues : ∀ n id, ids[n]? = some id → (view d'.backend).supply ((view d'.backend).issued + n) = id

variable {d d' : Desk σ} {i : ι}

theorem Desk.Alone.of_append {ids more : List SessionId} (h : d.Alone view (ids ++ more) d') :
    d.Alone view ids d' where
  now := h.now
  timeout := h.timeout
  vacant := h.vacant
  issues n id hid := by
    refine h.issues n id ?_
    obtain ⟨hn, -⟩ := List.getElem?_eq_some_iff.1 hid
    rw [List.getElem?_append_left hn, hid]

/-- The ids that a request of the client has been issued are the next ones that its own store has to issue. -/
theorem Desk.Alone.fresh {s s' : Sessions} {issued : ι → List SessionId} (h : d.Alone view (s.credit issued i s' i) d')
    (n : Nat) (hn : s.issued + n < s'.issued) :
    (view d'.backend).supply ((view d'.backend).issued + ((issued i).length + n)) = s.supply (s.issued + n) := by
  refine h.issues _ _ ?_
  rw [Sessions.credit, if_pos rfl, List.getElem?_append_right (Nat.le_add_right _ _), Nat.add_sub_cancel_left]
  exact Sessions.getElem?_newIds hn

variable [Clocked σ] {g : Guard σ} {handler : Flow σ Response} {r : Request} {history : List (Happening ι σ)}

omit [DecidableEq ι] in
/-- What a client gets is what its request comes to. -/
theorem answer_congr (houtcome : (g.runRequest handler r d').1 = (g.runRequest handler r d).1)
    (hexchange : (g.runRequest handler r d').2.1 = (g.runRequest handler r d).2.1) :
    ((g.handle handler r d').1, (g.serve handler r d').1) = ((g.handle handler r d).1, (g.serve handler r d).1) := by
  have hhandle (d : Desk σ) : (g.handle handler r d).1 =
      (g.runRequest handler r d).1.map (g.runRequest handler r d).2.1.finish := rfl
  have hserve (d : Desk σ) : (g.serve handler r d).1 =
      (g.runRequest handler r d).2.1.finish ((g.runRequest handler r d).1.toOption.getD internalError) := rfl
  rw [hhandle, hhandle, hserve, hserve, houtcome, hexchange]

variable (view) in
/-- After all that has happened the accounts are right, the store of the client that is alone is linked to the one that
is shared, and the client has got the same answers from both. -/
structure Apart (g : Guard σ) (d d' : Desk σ) (i : ι) (history : List (Happening ι σ)) : Prop where
  accounts : (view d.backend).Accounts (g.issuedTo view d history) (view (g.afterAll d history).backend)
  linked : (view d'.backend).Linked (g.issuedTo view d history) i (view (g.afterAll d history).backend)
    (view (g.afterAll d' (history.filter (·.concerns i))).backend)
  answers : g.answersTo d i history = g.answersTo d' i (history.filter (·.concerns i))

namespace Apart

/-- Before anything happens. -/
theorem start (g : Guard σ) (i : ι) (hvacant : (view d.backend).held = []) (halone : d.Alone view [] d') :
    g.Apart view d d' i [] := by
  have hnone {s : Sessions} (hs : s.held = []) : s.Distinct ∧ ∀ id, s.live? id = none := by
    simp [Sessions.Distinct, Sessions.ids, Sessions.live?, Sessions.find?, hs]
  obtain ⟨hdistinct, hdead⟩ := hnone hvacant
  obtain ⟨hdistinct', hdead'⟩ := hnone halone.vacant
  refine ⟨⟨rfl, hdistinct, by rintro _ _ ⟨⟩, fun id hid => ?_⟩, ?_, rfl⟩
  · simp [afterAll, after, hdead] at hid
  · refine ⟨rfl, rfl, hdistinct', halone.now, halone.timeout, fun id _ => ?_⟩
    exact (hdead' id).trans (hdead id).symm

/-- Time passes. -/
theorem meanwhile (h : g.Apart view d d' i history) {f : σ → σ} {ms : Nat}
    (hwait : ∀ s, view (f s) = (view s).wait ms) : g.Apart view d d' i (.meanwhile f :: history) := by
  have hafter : view (g.afterAll d (.meanwhile f :: history)).backend =
      (view (g.afterAll d history).backend).wait ms := hwait _
  have hafter' : view (g.afterAll d' ((Happening.meanwhile f :: history).filter (·.concerns i))).backend =
      (view (g.afterAll d' (history.filter (·.concerns i))).backend).wait ms := hwait _
  refine ⟨?_, ?_, h.answers⟩
  · rw [hafter]
    exact h.accounts.wait ms
  · rw [hafter, hafter']
    exact h.linked.wait ms

variable (hg : g.Discreet view store) (hstore : store.Prompt view) (hhandler : handler.Discreet view)
  (hfresh : Set.InjOn (view d.backend).supply
    (Set.Iio (view (g.runRequest handler r (g.afterAll d history)).2.2.backend).issued))
include hg hstore hhandler hfresh

/-- A request beside itself: this is what it does to the accounts, and to the sessions of others. -/
theorem mirror (h : g.Apart view d d' i history) {j : ι}
    (hpresented : ∀ id, g.presented r = some id → ¬ Sessions.Foreign (g.issuedTo view d history) j id) :
    (h.accounts.mirror hfresh j).Echo (view (g.runRequest handler r (g.afterAll d history)).2.2.backend)
      (view (g.runRequest handler r (g.afterAll d history)).2.2.backend) :=
  (runRequest_echo (P := h.accounts.mirror hfresh j) hg hstore hhandler hpresented (h.accounts.echo_mirror hfresh j)
    (Nat.le_refl _)).2.2

/-- The client sends a request. -/
theorem request (h : g.Apart view d d' i history)
    (hpresented : ∀ id, g.presented r = some id → ¬ Sessions.Foreign (g.issuedTo view d history) i id)
    (halone : d.Alone view (g.issuedTo view d (.request i r handler :: history) i) d') :
    g.Apart view d d' i (.request i r handler :: history) := by
  obtain ⟨houtcome, hexchange, hecho⟩ := runRequest_echo (P := h.linked.pairing h.accounts hfresh halone.fresh) hg
    hstore hhandler hpresented h.linked.echo_pairing (Nat.le_refl _)
  have hfilter : (Happening.request i r handler :: history).filter (·.concerns i) =
      .request i r handler :: history.filter (·.concerns i) :=
    List.filter_cons_of_pos (by simp [Happening.concerns])
  refine ⟨h.accounts.request (h.mirror hg hstore hhandler hfresh hpresented), ?_, ?_⟩
  · rw [hfilter]
    exact h.linked.request hecho
  · rw [hfilter, answersTo, answersTo, if_pos rfl, if_pos rfl, answer_congr houtcome hexchange, h.answers]

/-- Another client sends a request. -/
theorem request_of_other (h : g.Apart view d d' i history) {j : ι} (hji : j ≠ i)
    (hpresented : ∀ id, g.presented r = some id → ¬ Sessions.Foreign (g.issuedTo view d history) j id) :
    g.Apart view d d' i (.request j r handler :: history) := by
  have hmirror := h.mirror hg hstore hhandler hfresh hpresented
  have hfilter : (Happening.request j r handler :: history).filter (·.concerns i) =
      history.filter (·.concerns i) :=
    List.filter_cons_of_neg (by simp [Happening.concerns, hji])
  refine ⟨h.accounts.request hmirror, ?_, ?_⟩
  · rw [hfilter]
    exact h.linked.request_of_other hji hmirror
  · rw [hfilter, answersTo, if_neg hji, h.answers]

end Apart

/-- Whatever happens, the client is kept apart from the others. -/
theorem apart_of_ownIdsOnly (hg : g.Discreet view store) (hstore : store.Prompt view)
    (hhistory : ∀ e ∈ history, e.event.Discreet view) (hvacant : (view d.backend).held = [])
    (hfresh : Set.InjOn (view d.backend).supply (Set.Iio (view (g.afterAll d history).backend).issued))
    (hown : g.OwnIdsOnly view d history) (halone : d.Alone view (g.issuedTo view d history i) d') :
    g.Apart view d d' i history := by
  induction history with
  | nil => exact .start g i hvacant halone
  | cons e past ih =>
    rw [List.forall_mem_cons] at hhistory
    cases e with
    | meanwhile f =>
      obtain ⟨ms, hwait⟩ := hhistory.1
      have hafter : view (g.afterAll d (Happening.meanwhile f :: past)).backend =
          (view (g.afterAll d past).backend).wait ms := hwait _
      rw [hafter] at hfresh
      exact (ih hhistory.2 hfresh hown halone).meanwhile hwait
    | request j r handler =>
      have hhandler : handler.Discreet view := hhistory.1
      obtain ⟨hpresented, hown⟩ := hown
      have hgrows := issued_le_runRequest hg hstore hhandler r (g.afterAll d past)
      have hfresh' : Set.InjOn (view d.backend).supply (Set.Iio (view (g.afterAll d past).backend).issued) :=
        hfresh.mono fun n hn => Nat.lt_of_lt_of_le (Set.mem_Iio.1 hn) hgrows
      have hpast := ih hhistory.2 hfresh' hown (Desk.Alone.of_append halone)
      by_cases hji : j = i
      · subst hji
        exact hpast.request hg hstore hhandler hfresh hpresented halone
      · exact hpast.request_of_other hg hstore hhandler hfresh hji hpresented

/-- **Clients do not interfere.** Whatever requests several clients send to a guard, in whatever order, as long as none
presents an id that has been issued to another, each gets the answers that it gets alone, at the same times. Which ids
are issued is up to the store: that a client has got its ids among others, and not the first ones of the supply, is made
up for by a store that issues these ids to it when it is alone. -/
theorem answers_as_if_alone (hg : g.Discreet view store) (hstore : store.Prompt view)
    (hhistory : ∀ e ∈ history, e.event.Discreet view) (hvacant : (view d.backend).held = [])
    (hfresh : Set.InjOn (view d.backend).supply (Set.Iio (view (g.afterAll d history).backend).issued))
    (hown : g.OwnIdsOnly view d history) (halone : d.Alone view (g.issuedTo view d history i) d') :
    g.answersTo d i history = g.answersTo d' i (history.filter (·.concerns i)) :=
  (apart_of_ownIdsOnly hg hstore hhistory hvacant hfresh hown halone).answers

/-! ## Two clients log in -/

/-- A login form, from somebody without a session. -/
def loginForm : Request :=
  { Request.formOfAnn with cookies := [] }

/-- A request that presents the second id of the supply. -/
def requestOfLatecomer : Request :=
  { requestOfNobody with cookies := [("SESSION", (Ulid.ofNat 1).text)] }

/-- Two clients log in, one after the other; a second later the one that has come later is asked who it is. -/
def twoLogins : List (Happening Bool Sessions) :=
  [.request true requestOfLatecomer (seeing fun e => e.context.isAuthenticated), .meanwhile (·.wait 1000),
    .request true loginForm Flow.allRight, .request false loginForm Flow.allRight]

/-- No requests and no sessions yet, and a supply that starts with the id of the latecomer. -/
def deskOfLatecomer : Desk Sessions where
  backend := { supply := fun n => Ulid.ofNat (n + 1) }

theorem discreet_formOnly : formOnly.Discreet id Sessions.store := by
  intro c hc
  rw [List.mem_singleton.1 hc]
  exact ⟨{ formLogin := some {} }, Shared.ofAnn, rfl, Blueprint.Plain.discreet ⟨rfl, rfl⟩ rfl, Chain.build_formOnly⟩

theorem discreet_allRight : Flow.allRight.Discreet id :=
  Flow.discreet_reading fun _ => .ok ⟨200, [], .null⟩

/-- The latecomer is logged in, as it is when nobody has come before it. -/
theorem latecomer_as_if_alone :
    (formOnly.answersTo newDesk true twoLogins).map (·.2.status) = [200, 302] ∧
      formOnly.answersTo newDesk true twoLogins =
        formOnly.answersTo deskOfLatecomer true (twoLogins.filter (·.concerns true)) := by
  have hhistory : ∀ e ∈ twoLogins, e.event.Discreet id := by
    simp only [twoLogins, List.forall_mem_cons, List.not_mem_nil, false_imp_iff, implies_true, and_true]
    exact ⟨Flow.discreet_reading fun e => .ok (verdict e.context.isAuthenticated), ⟨1000, fun _ => rfl⟩,
      discreet_allRight, discreet_allRight⟩
  have hissued : (formOnly.afterAll newDesk twoLogins).backend.issued = 2 := by decide +kernel
  have hfresh : Set.InjOn newDesk.backend.supply (Set.Iio (formOnly.afterAll newDesk twoLogins).backend.issued) := by
    rw [hissued]
    intro m hm n hn heq
    rcases Nat.lt_trichotomy m n with h | h | h
    · exact absurd heq (Sessions.ofNat_ne h (Nat.lt_trans (Set.mem_Iio.1 hn) (by decide)))
    · exact h
    · exact absurd heq.symm (Sessions.ofNat_ne h (Nat.lt_trans (Set.mem_Iio.1 hm) (by decide)))
  have hids : formOnly.issuedTo id newDesk twoLogins true = [Ulid.ofNat 1] := by decide +kernel
  have hothers : formOnly.issuedTo id newDesk (twoLogins.drop 1) false = [Ulid.ofNat 0] := by decide +kernel
  have hpresented : formOnly.presented requestOfLatecomer = some (Ulid.ofNat 1) := by decide +kernel
  have hnone : formOnly.presented loginForm = none := by decide +kernel
  have hown : formOnly.OwnIdsOnly id newDesk twoLogins := by
    refine ⟨fun i hi => ?_, fun i hi => ?_, fun i hi => ?_, trivial⟩
    · rintro ⟨k, hk, hmem⟩
      obtain rfl := Option.some.inj (hpresented.symm.trans hi)
      obtain rfl : k = false := by simpa using hk
      have hmem' : Ulid.ofNat 1 ∈ [Ulid.ofNat 0] := hothers ▸ hmem
      revert hmem'
      decide +kernel
    · rw [hnone] at hi
      cases hi
    · rw [hnone] at hi
      cases hi
  have halone : newDesk.Alone id (formOnly.issuedTo id newDesk twoLogins true) deskOfLatecomer := by
    refine ⟨rfl, rfl, rfl, fun n i hi => ?_⟩
    rw [hids] at hi
    cases n with
    | zero => exact Option.some.inj hi
    | succ n => simp at hi
  exact ⟨by decide +kernel,
    answers_as_if_alone discreet_formOnly Sessions.store_prompt hhistory rfl hfresh hown halone⟩

end Guard

end Portcullis
