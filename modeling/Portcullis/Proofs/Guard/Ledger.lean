import Portcullis.Proofs.Guard.Turns

/-!
# What a request does to the number of sessions

While a request is served the sessions go through three phases at most (`Sessions.Ledger`): first the same ids are alive
as when it came; then its session may be moved to another id, as often as one likes; or a session is opened for it,
once, and only where its own is not alive. Once a session of the request is alive it stays alive, so nothing is opened
for the request after that.

* `Licence.byPolicy`: hosts that leave sessions to the policy of the chain.
* `Sessions.Ledger.step`: what one step does.
* `Licence.Trace.ledger`: what a run does.
-/

namespace Portcullis

variable {σ : Type}

/-! ## Policies -/

/-- How contexts are kept under a policy: nowhere, or in sessions, and then whether sessions may be opened and whether
they are opened always. -/
def SessionPolicy.mode : SessionPolicy → Option (Bool × Bool)
  | .stateless => none
  | .never => some (false, false)
  | .ifRequired => some (true, false)
  | .always => some (true, true)

theorem Blueprint.defaultRepository_eq (policy : SessionPolicy) (store : Store σ) :
    defaultRepository policy store = match policy.mode with
      | none => .none
      | some (allow, always) => .inSession store allow always := by
  cases policy <;> rfl

/-- The host may save and renew sessions, but does nothing else to them, and binds exchanges to no sessions of its own
choice. Contexts are kept as the policy has it. -/
def Licence.byPolicy (view : σ → Sessions) (policy : SessionPolicy) (store : Store σ) : Licence σ where
  behind := SparesSessions view
  sessions := True
  binds := False
  cookies := True
  repositories := (· = Blueprint.defaultRepository policy store)
  keepsRequest repository h := by
    rw [h]
    exact (Repository.over_default policy store).keepsRequest

theorem Licence.byPolicy_minds (view : σ → Sessions) (policy : SessionPolicy) (store : Store σ) :
    (byPolicy view policy store).Minds view store (policy.mode = ·) where
  behind _ h := h
  binds h := h
  repositories repository h := by
    have heq : repository = Blueprint.defaultRepository policy store := h
    rw [Blueprint.defaultRepository_eq] at heq
    cases hmode : policy.mode with
    | none =>
      rw [hmode] at heq
      exact .inl ⟨rfl, heq⟩
    | some mode =>
      rw [hmode] at heq
      exact .inr ⟨mode.1, mode.2, rfl, heq⟩

/-! ## Phases -/

/-- In the journal there is the save that has opened a session under this id: up to then the exchange has been bound to
the session that the request has presented, if it has presented one, and this session is not alive. -/
def Journal.Opening (policy : SessionPolicy) (start : Sessions) (presented : Option SessionId) (journal : Journal σ) :
    Prop :=
  ∃ earlier m later, journal = earlier ++ m :: later ∧ m.deed.isSave = true ∧
    (policy = .ifRequired ∧ m.exchange.context.isPersistable = true ∨ policy = .always) ∧
    m.exchange.session = some (start.supply start.issued) ∧ (∀ m' ∈ earlier, m'.exchange.session = presented) ∧
    ∀ id, presented = some id → ¬start.Alive id

theorem Journal.Opening.append {policy : SessionPolicy} {start : Sessions} {presented : Option SessionId}
    {journal : Journal σ} (h : journal.Opening policy start presented) (m : Moment σ) :
    Journal.Opening policy start presented (journal ++ [m]) := by
  obtain ⟨earlier, m', later, rfl, h⟩ := h
  exact ⟨earlier, m', later ++ [m], by simp, h⟩

namespace Sessions

/-- What has become of the sessions, and of the visit, through the steps of a journal. -/
inductive Ledger (policy : SessionPolicy) (start : Sessions) (presented : Option SessionId) (past : Journal σ)
    (visit : Visit) (t : Sessions) : Prop
  /-- The same ids are alive. -/
  | calm (h : start.Stays t) (hsession : visit.session = presented) (hpast : ∀ m ∈ past, m.exchange.session = presented)
    (hsaved : policy = .always → ∀ m ∈ past, m.deed.isSave = true → visit.Lives t)
  /-- The session of the visit has been moved. -/
  | moved (hdistinct : start.Distinct → t.Distinct) (hcreated : t.created = start.created)
    (hpopulation : t.population ≤ start.population) (hlives : visit.Lives t)
  /-- A session has been opened for the visit. -/
  | opened (hdistinct : t.Distinct) (hcreated : t.created = start.created + 1) (hlives : visit.Lives t)
    (hopening : past.Opening policy start presented)

variable {policy : SessionPolicy} {start t u : Sessions} {presented : Option SessionId} {past : Journal σ}
  {visit visit' : Visit}

theorem Ledger.distinct (h : Ledger policy start presented past visit t) (hd : start.Distinct) : t.Distinct := by
  cases h with
  | calm hstays _ _ _ => exact hstays.distinct hd
  | moved hdistinct _ _ _ => exact hdistinct hd
  | opened hdistinct _ _ _ => exact hdistinct

theorem ledger_new (policy : SessionPolicy) (start : Sessions) (visit : Visit) :
    Ledger policy start visit.session ([] : Journal σ) visit start :=
  .calm (.refl start) rfl (by simp) (by simp)

/-- A step after which the same ids are alive, and the visit bound to the same session. If it is a save under the policy
that opens sessions always, the session is alive. -/
theorem Ledger.stays (h : Ledger policy start presented past visit t) (hstays : t.Stays u)
    (hsession : visit'.session = visit.session) {m : Moment σ} (hm : m.exchange.toVisit = visit')
    (hsaved : policy = .always → m.deed.isSave = true → visit.Lives t) :
    Ledger policy start presented (past ++ [m]) visit' u := by
  have hlives (h : visit.Lives t) : visit'.Lives u := by
    obtain ⟨id, hid, halive⟩ := h.stays hstays
    exact ⟨id, hsession.trans hid, halive⟩
  cases h with
  | calm hcalm hpresented hpast hbefore =>
    refine .calm (hcalm.trans hstays) (hsession.trans hpresented) ?_ ?_
    · intro m' hm'
      rcases List.mem_append.1 hm' with hm' | hm'
      · exact hpast m' hm'
      · rw [List.mem_singleton.1 hm']
        exact (congrArg Visit.session hm).trans (hsession.trans hpresented)
    · intro hpolicy m' hm' hsave
      rcases List.mem_append.1 hm' with hm' | hm'
      · exact hlives (hbefore hpolicy m' hm' hsave)
      · rw [List.mem_singleton.1 hm'] at hsave
        exact hlives (hsaved hpolicy hsave)
  | moved hdistinct hcreated hpopulation hbefore =>
    refine .moved (fun hd => hstays.distinct (hdistinct hd)) (hstays.created.trans hcreated) ?_ (hlives hbefore)
    rw [hstays.population]
    exact hpopulation
  | opened hdistinct hcreated hbefore hopening =>
    exact .opened (hstays.distinct hdistinct) (hstays.created.trans hcreated) (hlives hbefore) (hopening.append m)

/-- A session is opened: nothing has happened before. -/
theorem Ledger.opens (h : Ledger policy start presented past visit t) (hadds : t.Adds u)
    (hdead : ∀ id, visit.session = some id → ¬t.Alive id) {m : Moment σ}
    (hm : m.exchange.toVisit = visit.bind (t.supply t.issued)) (hsave : m.deed.isSave = true)
    (hpolicy : policy = .ifRequired ∧ m.exchange.context.isPersistable = true ∨ policy = .always) :
    Ledger policy start presented (past ++ [m]) (visit.bind (t.supply t.issued)) u := by
  have hnone (hlives : visit.Lives t) : False := by
    obtain ⟨id, hid, halive⟩ := hlives
    exact hdead id hid halive
  have hbound : (visit.bind (t.supply t.issued)).Lives u := ⟨_, rfl, (hadds.alive _).2 (.inl rfl)⟩
  cases h with
  | calm hcalm hpresented hpast _ =>
    refine .opened hadds.distinct (by rw [hadds.created, hcalm.created]) hbound
      ⟨past, m, [], rfl, hsave, hpolicy, ?_, hpast, ?_⟩
    · rw [← hcalm.supply, ← hcalm.issued]
      exact congrArg Visit.session hm
    · intro id hid halive
      exact hdead id (hpresented.trans hid) ((hcalm.alive id).2 halive)
  | moved _ _ _ hlives => exact (hnone hlives).elim
  | opened _ _ hlives _ => exact (hnone hlives).elim

/-- The session of the visit is moved. -/
theorem Ledger.renames (h : Ledger policy start presented past visit t) {id : SessionId} (hrenames : t.Renames id u)
    (m : Moment σ) : Ledger policy start presented (past ++ [m]) (visit.bind (t.supply t.issued)) u := by
  have hbound : (visit.bind (t.supply t.issued)).Lives u := ⟨_, rfl, (hrenames.alive _).2 (.inl rfl)⟩
  have hle := hrenames.population
  cases h with
  | calm hcalm _ _ _ =>
    refine .moved (fun hd => hrenames.distinct (hcalm.distinct hd)) (hrenames.created.trans hcalm.created) ?_ hbound
    rw [← hcalm.population]
    exact hle
  | moved hdistinct hcreated hpopulation _ =>
    exact .moved (fun hd => hrenames.distinct (hdistinct hd)) (hrenames.created.trans hcreated)
      (Nat.le_trans hle hpopulation) hbound
  | opened hdistinct hcreated _ hopening =>
    exact .opened (hrenames.distinct hdistinct) (hrenames.created.trans hcreated) hbound (hopening.append m)

theorem Ledger.saves (h : Ledger policy start presented past visit t) {allow always : Bool}
    (hmode : policy.mode = some (allow, always)) {m : Moment σ} (hm : m.exchange.toVisit = visit')
    (hsave : m.deed.isSave = true) (hsaves : t.Saves allow always m.exchange.context visit visit' u) :
    Ledger policy start presented (past ++ [m]) visit' u := by
  cases hsaves with
  | stays hstays hwhy =>
    refine h.stays hstays rfl hm fun hpolicy _ => ?_
    rw [hpolicy] at hmode
    cases hmode
    rcases hwhy with hlives | hallow | hnothing
    · exact hlives
    · cases hallow
    · cases hnothing.2
  | opens hadds hdead hallow hwant =>
    refine h.opens hadds hdead hm hsave ?_
    cases policy with
    | always => exact .inr rfl
    | ifRequired =>
      cases hmode
      exact .inl ⟨rfl, hwant.resolve_right (by simp)⟩
    | never =>
      cases hmode
      cases hallow
    | stateless => cases hmode

/-- One step. -/
theorem Ledger.step (h : Ledger policy start presented past visit t) {lets : Headers → Prop} {m : Moment σ}
    (hm : m.exchange.toVisit = visit')
    (hstep : Turn lets (policy.mode = ·) m.exchange.context m.deed.isSave visit t visit' u) :
    Ledger policy start presented (past ++ [m]) visit' u := by
  generalize hsave : m.deed.isSave = saves at hstep
  cases hstep with
  | stays _ hstays => exact h.stays hstays rfl hm (by simp [hsave])
  | queue _ _ _ =>
    refine h.stays (.refl t) ?_ hm ?_
    · rfl
    · simp [hsave]
  | nowhere hmode =>
    refine h.stays (.refl t) rfl hm fun hpolicy _ => ?_
    rw [hpolicy] at hmode
    cases hmode
  | saves hmode hsaves => exact h.saves hmode hm hsave hsaves
  | rotates hrotates =>
    cases hrotates with
    | stays hstays _ => exact h.stays hstays rfl hm (by simp [hsave])
    | renames _ hrenames => exact h.renames hrenames m

end Sessions

/-! ## Runs -/

variable {view : σ → Sessions} {policy : SessionPolicy} {store : Store σ}

/-- A run of a host that leaves sessions to the policy. -/
theorem Licence.Trace.ledger (hstore : store.Prompt view) {p q : Passage σ} {journal : Journal σ}
    (h : (Licence.byPolicy view policy store).Trace p journal q) (hd : (view p.backend).Distinct) :
    Sessions.Ledger policy (view p.backend) p.exchange.session journal q.exchange.toVisit (view q.backend) := by
  refine h.invariant (fun q past =>
    Sessions.Ledger policy (view p.backend) p.exchange.session past q.exchange.toVisit (view q.backend)) ?_ []
    (Sessions.ledger_new policy _ _)
  intro q m q' past hq hm
  have hcontext : m.exchange.context = q'.exchange.context := by rw [hm.exchange]
  have hturn := hm.effect.turn (Licence.byPolicy_minds view policy store) hstore (hq.distinct hd)
  rw [← hcontext] at hturn
  exact hq.step (by rw [hm.exchange]) hturn

end Portcullis
