import Portcullis.Proofs.Guard.Turns

/-!
# What the session cookie says

Every session that is opened and every one that is moved to another id binds the visit to it, and the binding queues a
cookie in place of the one queued before. So of the ids issued while a request is served one at most is alive when the
answer is sent, and the answer says which one in its only `set-cookie` field (`Guard.cookie_names_issued`); it has no
such field if there is none. Hosts may save and renew sessions in any order, and fail, but set no cookies themselves.
-/

namespace Portcullis

variable {σ : Type}

/-- The host may save and renew sessions; it sets no cookies, binds exchanges to no sessions of its own choice, and does
nothing else to the sessions. Contexts are kept in the sessions of the store, or nowhere. -/
def Licence.toSave (view : σ → Sessions) (store : Store σ) : Licence σ where
  behind := SparesSessions view
  sessions := True
  binds := False
  cookies := False
  repositories := (·.Over store)
  keepsRequest _ h := h.keepsRequest

theorem Licence.toSave_minds (view : σ → Sessions) (store : Store σ) :
    (toSave view store).Minds view store fun _ => True where
  behind _ h := h
  binds h := h
  repositories _ h := by
    cases h with
    | inSession allow always => exact .inr ⟨allow, always, trivial, rfl⟩
    | none => exact .inl ⟨trivial, rfl⟩

theorem Licence.getAll_of_toSave {view : σ → Sessions} {store : Store σ} {headers : Headers}
    (h : (toSave view store).Lets headers) : headers.getAll "set-cookie" = [] :=
  h.resolve_left id

/-! ## Queued cookies -/

/-- The fields that set the session cookie, if there is a session to tell of. -/
def Cookie.told (name : String) (cookie : Option SessionId) : List String :=
  cookie.toList.map fun id => Cookie.render name id.text

namespace Visit

theorem isCookieField_render {name : String} {field : String × String} {id : SessionId}
    (hnamed : Headers.named "set-cookie" field = true) (hvalue : field.2 = Cookie.render name id.text) :
    isCookieField name field = true := by
  have hstarts : (name.toList ++ ['=']).isPrefixOf field.2.toList = true := by
    rw [List.isPrefixOf_iff_prefix, hvalue]
    exact ⟨id.text.toList ++ "; Path=/; HttpOnly".toList, by simp [Cookie.render]⟩
  rw [isCookieField, hnamed, hstarts]
  rfl

/-- Where no cookie but one of the session has been queued, a binding leaves its own cookie alone. -/
theorem getAll_bind {visit : Visit} {cookie : Option SessionId}
    (h : visit.pending.getAll "set-cookie" = Cookie.told visit.cookieName cookie) (id : SessionId) :
    (visit.bind id).pending.getAll "set-cookie" = Cookie.told visit.cookieName (some id) := by
  have hremoved : Headers.getAll (visit.pending.filter fun field => !isCookieField visit.cookieName field)
      "set-cookie" = [] := by
    rw [Headers.getAll_eq_nil_iff]
    intro field hfield
    obtain ⟨hmem, hother⟩ := List.mem_filter.1 hfield
    cases hnamed : Headers.named "set-cookie" field with
    | false => rfl
    | true =>
      have hvalue : field.2 ∈ visit.pending.getAll "set-cookie" :=
        List.mem_map.2 ⟨field, List.mem_filter.2 ⟨hmem, hnamed⟩, rfl⟩
      rw [h, Cookie.told] at hvalue
      obtain ⟨told, -, hrender⟩ := List.mem_map.1 hvalue
      simp [isCookieField_render hnamed hrender.symm] at hother
  have hown : Headers.named "set-cookie" ("set-cookie", Cookie.render visit.cookieName id.text) = true :=
    Text.sameIgnoringCase_self _
  rw [bind, Headers.getAll_append, hremoved, Headers.getAll_cons, if_pos hown]
  rfl

/-! ## The invariant -/

/-- The cookie that is queued, if one is, names the session that the visit is bound to; and of the ids issued since the
start it names the one that is alive. -/
structure Truthful (start : Sessions) (name : String) (visit : Visit) (t : Sessions) (cookie : Option SessionId) :
    Prop where
  later : start.Later t
  distinct : t.Distinct
  named : visit.cookieName = name
  queued : visit.pending.getAll "set-cookie" = Cookie.told name cookie
  bound : ∀ id, cookie = some id → visit.session = some id
  issued : ∀ id, start.Issues t id ∧ t.Alive id ↔ cookie = some id

variable {start t u : Sessions} {name : String} {visit : Visit} {cookie : Option SessionId}

theorem truthful_new (request : Request) (name : String) (hd : start.Distinct) :
    (ofRequest request name).Truthful start name start none where
  later := .refl start
  distinct := hd
  named := rfl
  queued := rfl
  bound := nofun
  issued id := by
    constructor
    · rintro ⟨⟨n, hle, hlt, -⟩, -⟩
      omega
    · nofun

theorem Truthful.stays (h : visit.Truthful start name t cookie) (h' : t.Stays u) :
    visit.Truthful start name u cookie where
  later := h.later.trans ⟨h'.supply, Nat.le_of_eq h'.issued.symm, h'.distinct⟩
  distinct := h'.distinct h.distinct
  named := h.named
  queued := h.queued
  bound := h.bound
  issued id := by
    rw [← h.issued, h'.alive, Sessions.Issues, Sessions.Issues, h'.issued]

/-- A field that sets no cookie is queued. -/
theorem Truthful.queue (h : visit.Truthful start name t cookie) {fields : Headers}
    (hfields : fields.getAll "set-cookie" = []) :
    Truthful start name { visit with pending := visit.pending ++ fields } t cookie where
  later := h.later
  distinct := h.distinct
  named := h.named
  queued := by
    rw [Headers.getAll_append, hfields, List.append_nil]
    exact h.queued
  bound := h.bound
  issued := h.issued

/-- One more id has been issued. -/
theorem issues_succ (hlater : start.Later t) (hissued : u.issued = t.issued + 1)
    {id : SessionId} : start.Issues u id ↔ start.Issues t id ∨ id = t.supply t.issued := by
  have hle := hlater.issued
  constructor
  · rintro ⟨n, hstart, hlt, rfl⟩
    by_cases hlast : n = t.issued
    · right
      rw [hlast, hlater.supply]
    · left
      exact ⟨n, hstart, by omega, rfl⟩
  · rintro (⟨n, hstart, hlt, rfl⟩ | rfl)
    · exact ⟨n, hstart, by omega, rfl⟩
    · exact ⟨t.issued, hle, by omega, by rw [hlater.supply]⟩

/-- The visit is bound to a session under the next id: alive are that one and others that have been alive before, and
not the one to which the visit has been bound. -/
theorem Truthful.rebind (h : visit.Truthful start name t cookie) (hsupply : u.supply = t.supply)
    (hissued : u.issued = t.issued + 1) (hdistinct : u.Distinct) (hfresh : u.Alive (t.supply t.issued))
    (hothers : ∀ i, i ≠ t.supply t.issued → u.Alive i → t.Alive i ∧ visit.session ≠ some i) :
    (visit.bind (t.supply t.issued)).Truthful start name u (some (t.supply t.issued)) where
  later := h.later.trans ⟨hsupply, by omega, fun _ => hdistinct⟩
  distinct := hdistinct
  named := h.named
  queued := by
    have hqueued := h.queued
    rw [← h.named] at hqueued ⊢
    exact getAll_bind hqueued _
  bound id hid := hid
  issued id := by
    rw [issues_succ h.later hissued, Option.some.injEq]
    constructor
    · rintro ⟨hissues, halive⟩
      by_contra hne
      obtain ⟨hbefore, hother⟩ := hothers id (Ne.symm hne) halive
      rcases hissues with hissues | rfl
      · exact hother (h.bound id ((h.issued id).1 ⟨hissues, hbefore⟩))
      · exact hne rfl
    · rintro rfl
      exact ⟨.inr rfl, hfresh⟩

theorem Truthful.saves (h : visit.Truthful start name t cookie) {allow always : Bool} {c : SecurityContext}
    {visit' : Visit} (hsaves : t.Saves allow always c visit visit' u) : ∃ cookie', visit'.Truthful start name u cookie' := by
  cases hsaves with
  | stays hstays _ => exact ⟨cookie, h.stays hstays⟩
  | opens hadds hdead _ _ =>
    refine ⟨_, h.rebind hadds.supply hadds.issued hadds.distinct ((hadds.alive _).2 (.inl rfl)) ?_⟩
    intro i hi halive
    have hbefore := ((hadds.alive i).1 halive).resolve_left hi
    exact ⟨hbefore, fun hsession => hdead i hsession hbefore⟩

theorem Truthful.rotates (h : visit.Truthful start name t cookie) {visit' : Visit}
    (hrotates : t.Rotates visit visit' u) : ∃ cookie', visit'.Truthful start name u cookie' := by
  cases hrotates with
  | stays hstays _ => exact ⟨cookie, h.stays hstays⟩
  | @renames id _ hid hrenames =>
    refine ⟨_, h.rebind hrenames.supply hrenames.issued (hrenames.distinct h.distinct)
      ((hrenames.alive _).2 (.inl rfl)) ?_⟩
    intro i hi halive
    obtain ⟨hne, hbefore⟩ := ((hrenames.alive i).1 halive).resolve_left hi
    refine ⟨hbefore, fun hsession => hne ?_⟩
    exact Option.some.inj (hsession.symm.trans hid)

theorem Truthful.turn {σ : Type} {view : σ → Sessions} {store : Store σ} {modes : Option (Bool × Bool) → Prop}
    {c : SecurityContext} {saves : Bool} {visit' : Visit} (h : visit.Truthful start name t cookie)
    (hturn : Sessions.Turn (Licence.toSave view store).Lets modes c saves visit t visit' u) :
    ∃ cookie', visit'.Truthful start name u cookie' := by
  cases hturn with
  | stays _ hstays => exact ⟨cookie, h.stays hstays⟩
  | queue hq => exact ⟨cookie, h.queue (Licence.getAll_of_toSave hq)⟩
  | nowhere => exact ⟨cookie, h⟩
  | saves _ hsaves => exact h.saves hsaves
  | rotates hrotates => exact h.rotates hrotates

end Visit

/-! ## Runs -/

variable {view : σ → Sessions} {store : Store σ}

/-- A run of a host that may save keeps the cookie truthful. -/
theorem Licence.Trace.truthful (hstore : store.Prompt view) {start : Sessions} {name : String} {p q : Passage σ}
    {journal : Journal σ} (h : (Licence.toSave view store).Trace p journal q) {cookie : Option SessionId}
    (hp : p.exchange.toVisit.Truthful start name (view p.backend) cookie) :
    ∃ cookie', q.exchange.toVisit.Truthful start name (view q.backend) cookie' := by
  have hstep : ∀ (p : Passage σ) (m : Moment σ) (q : Passage σ) (past : Journal σ),
      (∃ cookie, p.exchange.toVisit.Truthful start name (view p.backend) cookie) →
      (Licence.toSave view store).Step p m q →
      ∃ cookie, q.exchange.toVisit.Truthful start name (view q.backend) cookie := by
    rintro p m q - ⟨cookie, hp⟩ hm
    exact hp.turn (hm.effect.turn (Licence.toSave_minds view store) hstore hp.distinct)
  exact h.invariant (fun p _ => ∃ cookie, p.exchange.toVisit.Truthful start name (view p.backend) cookie) hstep []
    ⟨cookie, hp⟩

namespace Guard

variable [Clocked σ] {shared : Shared σ} {g : Guard σ} {r : Request} {c : Chain σ}

theorem getAll_internalError : internalError.headers.getAll "set-cookie" = [] :=
  Headers.getAll_eq_nil_of_names (by simp [internalError, Response.error, Response.json]) Licence.ownFields_ne_cookie

/-- The ids issued while a request is served that are alive at the end are the one that the answer's `set-cookie` field
names, and none if there is no such field. -/
theorem cookie_names_issued (hstore : shared.store.Prompt view) {b : Blueprint σ} (hbuild : b.build shared = .ok c)
    (hb : b.Within shared (.toSave view shared.store)) (hchain : g.chainFor? r.path = some c) {code : Program σ}
    (hcode : code.Within (.toSave view shared.store)) (d : Desk σ) (hd : (view d.backend).Distinct) :
    ∃ cookie : Option SessionId,
      (g.serve code.handle r d).1.headers.getAll "set-cookie" = Cookie.told c.cookieName cookie ∧
      ∀ id, (view d.backend).Issues (view (g.serve code.handle r d).2.backend) id ∧
        (view (g.serve code.handle r d).2.backend).Alive id ↔ cookie = some id := by
  obtain ⟨outcome, q, journal, -, hrun, htrace, hanswer⟩ :=
    g.exists_trace d (stagesFor_within hb hbuild hchain) (.inl trivial) hcode
  have hserve : g.serve code.handle r d =
      (q.exchange.finish (outcome.toOption.getD internalError), ⟨q.metrics, q.backend⟩) := by
    rw [serve, hrun]
  have hentered : (g.enter r d).exchange.toVisit = .ofRequest r c.cookieName := by
    simp [enter, newExchange, hchain, Exchange.ofRequest]
  have hnew : (g.enter r d).exchange.toVisit.Truthful (view d.backend) c.cookieName (view (g.enter r d).backend)
      none := by
    rw [hentered]
    exact Visit.truthful_new r c.cookieName hd
  obtain ⟨cookie, htruthful⟩ := htrace.truthful hstore hnew
  have hnone : (outcome.toOption.getD internalError).headers.getAll "set-cookie" = [] := by
    cases outcome with
    | error failure => exact getAll_internalError
    | ok response => exact Licence.getAll_of_toSave (hanswer response rfl)
  refine ⟨cookie, ?_, ?_⟩
  · rw [hserve, Exchange.getAll_finish, hnone, List.nil_append]
    exact htruthful.queued
  · rw [hserve]
    exact htruthful.issued

end Guard

/-! ## A handler that saves and renews -/

/-- Sets an authentication and saves it, gives the session a new id, and fails. -/
def Program.renewsAndFails : Program Sessions :=
  .authenticate ⟨"ann", [], true, .formLogin⟩ (.save fun _ => .rotate fun _ => .fail (.handler "too late"))

theorem Program.renewsAndFails_within : renewsAndFails.Within (.toSave id Sessions.store) :=
  .authenticate _ (.save trivial fun _ => .rotate trivial fun _ => .fail _)

/-- Of the two ids that have been issued the second one is alive, and the answer names it although the handler fails. -/
theorem Guard.cookie_names_renewed :
    (∃ cookie : Option SessionId,
      (serve ⟨[Chain.explicitOnly]⟩ Program.renewsAndFails.handle { method := .get, path := "/" }
        newDesk).1.headers.getAll "set-cookie" = Cookie.told "SESSION" cookie ∧
      ∀ i, newDesk.backend.Issues (serve ⟨[Chain.explicitOnly]⟩ Program.renewsAndFails.handle
          { method := .get, path := "/" } newDesk).2.backend i ∧
        (serve ⟨[Chain.explicitOnly]⟩ Program.renewsAndFails.handle
          { method := .get, path := "/" } newDesk).2.backend.Alive i ↔ cookie = some i) ∧
    (serve ⟨[Chain.explicitOnly]⟩ Program.renewsAndFails.handle { method := .get, path := "/" }
      newDesk).1.headers.getAll "set-cookie" = [Cookie.render "SESSION" (Ulid.ofNat 1).text] := by
  refine ⟨cookie_names_issued Sessions.store_prompt Chain.build_explicitOnly ?_ rfl Program.renewsAndFails_within
    newDesk List.nodup_nil, ?_⟩
  · exact Blueprint.Plain.within ⟨rfl, rfl⟩ (.inSession true false) (.inl rfl)
  · decide +kernel

end Portcullis
