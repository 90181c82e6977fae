import Portcullis.Proofs.Pipeline.Contract
import Portcullis.Proofs.Session.Keeping

/-!
# Who may read an answer

Pages of other origins may read an answer that has a field `access-control-allow-origin`. Of the library's own stages
only the one for other origins puts such a field into an answer or queues one (`Stage.closed_autoSave` and the like),
and it puts there what has been decided (`Stage.getAll_mergeHeaders`).
-/

namespace Portcullis

/-- No field names an origin whose pages may read the answer. -/
def Headers.Closed (h : Headers) : Prop :=
  h.getAll "access-control-allow-origin" = []

namespace Headers

theorem closed_append {h k : Headers} : (h ++ k).Closed ↔ h.Closed ∧ k.Closed := by
  simp [Closed, getAll_append]

theorem Closed.filter {h : Headers} (hclosed : h.Closed) (p : String × String → Bool) : Closed (h.filter p) :=
  getAll_eq_nil_iff.2 fun field hfield => getAll_eq_nil_iff.1 hclosed field (List.mem_filter.1 hfield).1

/-- The names of the fields that stages put into answers of their own. -/
def ownNames : List String :=
  ["content-type", "location", "www-authenticate", "set-cookie", "vary"]

theorem ownNames_ne : ∀ name ∈ ownNames, Text.sameIgnoringCase name "access-control-allow-origin" = false := by
  decide +kernel

theorem closed_of_ownNames {h : Headers} (hnames : ∀ field ∈ h, field.1 ∈ ownNames) : h.Closed :=
  getAll_eq_nil_of_names hnames ownNames_ne

end Headers

/-! ## Answers of the library's own -/

theorem Response.json_closed (status : Nat) (body : Json) : (Response.json status body).headers.Closed :=
  Headers.closed_of_ownNames (by simp [json, Headers.ownNames])

theorem Response.redirect_closed (location : String) : (Response.redirect location).headers.Closed :=
  Headers.closed_of_ownNames (by simp [redirect, Headers.ownNames])

theorem HttpBasic.challenge_closed (realm : String) : (challenge realm).headers.Closed := by
  have hne : Text.sameIgnoringCase "access-control-allow-origin" "www-authenticate" = false := by
    rw [Text.sameIgnoringCase_comm]
    exact Headers.ownNames_ne _ (by simp [Headers.ownNames])
  rw [Headers.Closed, challenge, Response.setHeader, Headers.getAll_set_of_ne _ _ hne]
  exact Response.json_closed _ _

theorem EntryPoint.response_closed (entry : EntryPoint) : entry.response.headers.Closed := by
  cases entry with
  | loginPage page => exact Response.redirect_closed page
  | basicChallenge realm => exact HttpBasic.challenge_closed realm
  | forbidden => exact Response.json_closed _ _

/-! ## The headers of a decision -/

namespace Stage

variable {name : String}

theorem getAll_mergeHeader (hname : Text.sameIgnoringCase name "vary" = false) (r : Response)
    (field : String × String) : (mergeHeader r field).headers.getAll name =
      if Headers.named name field then [field.2] else r.headers.getAll name := by
  rw [mergeHeader]
  by_cases hvary : Headers.named "vary" field = true
  · have hnamed : Headers.named name field = false := by
      rw [Headers.named, Text.sameIgnoringCase_comm, ← hname]
      simp only [Headers.named, Text.sameIgnoringCase, beq_iff_eq] at hvary
      simp only [Text.sameIgnoringCase, hvary]
    rw [if_pos hvary, hnamed, if_neg Bool.false_ne_true]
    exact Headers.getAll_addVary_of_ne _ _ hname
  · rw [if_neg hvary, Response.setHeader]
    by_cases hnamed : Headers.named name field = true
    · rw [if_pos hnamed, ← Headers.getAll_congr _ hnamed, Headers.getAll_set]
    · rw [if_neg hnamed, Headers.getAll_set_of_ne]
      rw [Text.sameIgnoringCase_comm]
      exact Bool.eq_false_iff.2 hnamed

/-- Of the values that are put into an answer under a name, the last one stays. -/
theorem getAll_mergeHeaders (hname : Text.sameIgnoringCase name "vary" = false) (headers : Headers) (r : Response) :
    (mergeHeaders r headers).headers.getAll name =
      match (headers.getAll name).getLast? with
      | none => r.headers.getAll name
      | some value => [value] := by
  induction headers generalizing r with
  | nil => rfl
  | cons field rest ih =>
    rw [mergeHeaders, List.foldl_cons, ← mergeHeaders, ih, getAll_mergeHeader hname, Headers.getAll_cons]
    by_cases hnamed : Headers.named name field = true
    · rw [if_pos hnamed, if_pos hnamed, List.getLast?_cons]
      cases (Headers.getAll rest name).getLast? <;> rfl
    · rw [if_neg hnamed, if_neg hnamed]

theorem mergeHeaders_status (r : Response) (headers : Headers) : (mergeHeaders r headers).status = r.status := by
  induction headers generalizing r with
  | nil => rfl
  | cons field rest ih =>
    rw [mergeHeaders, List.foldl_cons, ← mergeHeaders, ih, mergeHeader]
    split <;> rfl

/-- On its way back an answer keeps its status, and its fields of the names that the decision does not speak of. -/
theorem relay_ok (decision : Cors.Decision) (response : Response) :
    ∃ relayed, relay decision (.ok response) = .ok relayed ∧ relayed.status = response.status ∧
      ∀ name, Text.sameIgnoringCase name "vary" = false →
        (∀ headers preflight, decision = .allow headers preflight → headers.getAll name = []) →
        relayed.headers.getAll name = response.headers.getAll name := by
  rcases decision with _ | _ | ⟨headers, _ | _⟩ | ⟨reason, preflight⟩
  case allow.false =>
    refine ⟨mergeHeaders response headers, rfl, mergeHeaders_status response headers, fun name hvary hname => ?_⟩
    rw [getAll_mergeHeaders hvary, hname headers false rfl]
    rfl
  all_goals exact ⟨response, rfl, rfl, fun _ _ _ => rfl⟩

end Stage

/-! ## Repositories -/

section Visits

variable {σ α β : Type} {inv : Visit → Prop}

/-- The operation keeps visits as they have to be. -/
def VisitOp.Keeps (inv : Visit → Prop) (op : VisitOp σ α) : Prop :=
  ∀ visit s, inv visit → inv (op (visit, s)).2.1

theorem VisitOp.keeps_pure (a : α) : Keeps inv (pure a : VisitOp σ α) :=
  fun _ _ h => h

theorem VisitOp.keeps_inVisit (op : Op σ α) : Keeps inv op.inVisit :=
  fun _ _ h => h

theorem VisitOp.Keeps.seq {op : VisitOp σ α} {next : α → VisitOp σ β} (h : op.Keeps inv)
    (hnext : ∀ a, (next a).Keeps inv) : Keeps inv (op >>= next) := by
  intro visit s hvisit
  have hop := h visit s hvisit
  rw [Steps.bind_apply]
  rcases hresult : op (visit, s) with ⟨e | a, visit', s'⟩ <;> rw [hresult] at hop
  · exact hop
  · exact hnext a visit' s' hop

/-- Whatever binding a visit to a session keeps, keeping contexts in sessions keeps. -/
theorem Repository.keeps_inSession (hbind : ∀ visit id, inv visit → inv (visit.bind id)) (store : Store σ)
    (allow always : Bool) : (∀ c, ((inSession store allow always).save c).Keeps inv) ∧
      (inSession store allow always).rotate.Keeps inv := by
  have hkeeps : VisitOp.Composes (σ := σ) fun op => op.Keeps inv := {
    pure := VisitOp.keeps_pure
    throw := fun _ _ _ h => h
    seq := VisitOp.Keeps.seq
    visit := fun _ _ h => h
    bind := fun id visit _ h => hbind visit id h }
  exact ⟨fun c => hkeeps.save allow always (VisitOp.keeps_inVisit _) (fun _ => VisitOp.keeps_inVisit _)
    (fun _ _ => VisitOp.keeps_inVisit _) fun _ => VisitOp.keeps_inVisit _,
    hkeeps.rotate allow always fun _ => VisitOp.keeps_inVisit _⟩

end Visits

section Passages

variable {σ : Type}

/-- The repository leaves the request of a visit as it is. -/
structure Repository.KeepsRequest (repository : Repository σ) : Prop where
  save : ∀ r c, (repository.save c).Keeps fun visit => visit.request = r
  rotate : ∀ r, repository.rotate.Keeps fun visit => visit.request = r

namespace Repository

theorem keepsRequest_inSession (store : Store σ) (allow always : Bool) : (inSession store allow always).KeepsRequest :=
  ⟨fun _ => (keeps_inSession (fun _ _ h => h) store allow always).1,
    fun _ => (keeps_inSession (fun _ _ h => h) store allow always).2⟩

theorem keepsRequest_none : (none : Repository σ).KeepsRequest :=
  ⟨fun _ _ => VisitOp.keeps_pure _, fun _ => VisitOp.keeps_pure _⟩

end Repository

theorem Visit.bind_closed (visit : Visit) (id : SessionId) (h : visit.pending.Closed) :
    (visit.bind id).pending.Closed :=
  Headers.closed_append.2 ⟨h.filter _, Headers.closed_of_ownNames (by simp [Headers.ownNames])⟩

/-- The repository queues nothing that names an origin. -/
structure Repository.Closed (r : Repository σ) : Prop where
  save : ∀ c, (r.save c).Keeps fun visit => visit.pending.Closed
  rotate : r.rotate.Keeps fun visit => visit.pending.Closed

theorem Repository.closed_inSession (store : Store σ) (allow always : Bool) :
    (inSession store allow always).Closed :=
  ⟨(keeps_inSession Visit.bind_closed store allow always).1, (keeps_inSession Visit.bind_closed store allow always).2⟩

theorem Repository.closed_none : (none : Repository σ).Closed :=
  ⟨fun _ => VisitOp.keeps_pure _, VisitOp.keeps_pure _⟩

/-- Nothing that is queued names an origin, and nothing that the repositories at hand will queue. -/
structure Passage.Closed (p : Passage σ) : Prop where
  pending : p.exchange.pending.Closed
  hook : ∀ r, p.exchange.hook = some r → r.Closed
  repository : ∀ r, p.exchange.repository = some r → r.Closed

/-- The request has come back, and nothing names an origin whose pages may read the answer. -/
structure Passage.ClosedBack (outcome : Except Failure Response) (q : Passage σ) : Prop where
  answer : ∀ response, outcome = .ok response → response.headers.Closed
  pending : q.exchange.pending.Closed

/-- The handler names no origins, neither in its answers nor in what it queues. -/
def Flow.Closed (handler : Flow σ Response) : Prop :=
  ∀ p : Passage σ, p.Closed → Passage.ClosedBack (handler p).1 (handler p).2

namespace Passage.Closed

variable {p : Passage σ}

theorem back (h : p.Closed) (e : Failure) : ClosedBack (.error e) p :=
  ⟨nofun, h.pending⟩

theorem answered (h : p.Closed) {response : Response} (hresponse : response.headers.Closed) :
    ClosedBack (.ok response) p := by
  refine ⟨?_, h.pending⟩
  rintro _ ⟨⟩
  exact hresponse

theorem setContext (h : p.Closed) (context : SecurityContext) :
    Closed { p with exchange := { p.exchange with context } } :=
  ⟨h.pending, h.hook, h.repository⟩

theorem loadContext (h : p.Closed) {r : Repository σ} (hr : r.Closed) :
    (Flow.loadContext r { p with exchange := p.exchange.mark Stage.contextMark }).2.Closed := by
  have hmarked : Closed { p with exchange := p.exchange.mark Stage.contextMark } :=
    ⟨by simpa using h.pending, by simpa using h.hook, by simpa using h.repository⟩
  rw [Flow.loadContext_apply]
  split
  · refine ⟨hmarked.pending, hmarked.hook, ?_⟩
    rintro _ ⟨⟩
    exact hr
  · exact ⟨hmarked.pending, hmarked.hook, hmarked.repository⟩

theorem saveContext (h : p.Closed) : (Flow.saveContext p).2.Closed := by
  refine Flow.keeps_saveContext h (fun r hr => ?_) fun q state hq => ⟨hq.pending, hq.hook, hq.repository⟩
  exact ⟨(h.hook r hr).save _ _ _ h.pending, h.hook, h.repository⟩

theorem rotateSession (h : p.Closed) : (Flow.rotateSession p).2.Closed := by
  refine Flow.keeps_rotateSession h fun r hr => ?_
  exact ⟨(h.repository r hr).rotate _ _ h.pending, h.hook, h.repository⟩

theorem succeed (h : p.Closed) (f : FormLogin) (a : Authentication) :
    ClosedBack (f.succeed a p).1 (f.succeed a p).2 := by
  have hafter : (f.succeed a p).2.Closed := by
    rw [f.succeed_snd]
    split
    · exact (h.rotateSession.setContext ⟨some a⟩).saveContext
    · exact h.rotateSession
  rcases f.succeed_fst a p with hanswer | ⟨e, herror⟩
  · rw [hanswer]
    exact hafter.answered (Response.redirect_closed _)
  · rw [herror]
    exact hafter.back e

end Passage.Closed

/-! ## Stages -/

namespace Stage

variable [Clocked σ] {repository : Repository σ}

/-- The stage names no origins, as long as what lies ahead names none. -/
def Closed (stage : Stage σ) : Prop :=
  stage.Honours Passage.Closed Passage.ClosedBack

theorem closed_autoSave (h : repository.Closed) : (autoSave repository).Closed := by
  intro n p hp
  have hloaded := hp.loadContext h
  refine Transit.meets_onceTransit ⟨hp, fun _ _ h => h⟩ (Transit.meets_step ?_ ?_)
  · intro _ q hq
    rw [hq] at hloaded
    refine ⟨hloaded, fun outcome q' hq' => ?_⟩
    obtain ⟨state, hsnd⟩ := settle_snd outcome (repository.save q'.exchange.context) q'
    refine ⟨fun response hresponse => ?_, ?_⟩
    · rcases settle_fst outcome (repository.save q'.exchange.context) q' with hfst | ⟨e, hfst⟩
      · exact hq'.answer response (hfst.symm.trans hresponse)
      · cases hfst.symm.trans hresponse
    · rw [hsnd]
      exact h.save _ _ _ hq'.pending
  · intro e q hq
    rw [hq] at hloaded
    exact hloaded.back e

theorem closed_explicitSave (h : repository.Closed) : (explicitSave repository).Closed := by
  intro n p hp
  have hloaded := hp.loadContext h
  refine Transit.meets_onceTransit ⟨hp, fun _ _ h => h⟩ (Transit.meets_step ?_ ?_)
  · intro _ q hq
    rw [hq] at hloaded
    refine ⟨⟨hloaded.pending, ?_, hloaded.repository⟩, fun outcome q' hq' => ⟨hq'.answer, hq'.pending⟩⟩
    rintro _ ⟨⟩
    exact h
  · intro e q hq
    rw [hq] at hloaded
    exact hloaded.back e

theorem closed_formLogin (settings : FormLogin) (users : Users) : (formLogin settings users : Stage σ).Closed := by
  intro n p hp
  rw [transit]
  split
  · exact hp.answered (Response.json_closed _ _)
  split
  · cases settings.verdict users p.exchange.request with
    | none => exact hp.answered (Response.redirect_closed _)
    | some a => exact hp.succeed settings a
  · exact ⟨hp, fun _ _ h => h⟩

theorem closed_httpBasic (realm : String) (users : Users) : (httpBasic realm users : Stage σ).Closed := by
  intro n p hp
  rw [transit]
  rcases HttpBasic.verdict users p.exchange.request with _ | _ | a
  · exact ⟨hp, fun _ _ h => h⟩
  · exact hp.answered (HttpBasic.challenge_closed _)
  · exact ⟨hp.setContext ⟨some a⟩, fun _ _ h => h⟩

theorem closed_anonymous : (anonymous : Stage σ).Closed := by
  intro n p hp
  refine ⟨?_, fun _ _ h => h⟩
  split
  · exact hp.setContext ⟨some .anonymous⟩
  · exact hp

theorem closed_authorization (rules : List Rule) (entry : EntryPoint) :
    (authorization rules entry : Stage σ).Closed := by
  intro n p hp
  rw [transit]
  split
  · exact ⟨hp, fun _ _ h => h⟩
  split
  · exact hp.answered (Response.json_closed _ _)
  · exact hp.answered entry.response_closed

end Stage

end Passages

end Portcullis
