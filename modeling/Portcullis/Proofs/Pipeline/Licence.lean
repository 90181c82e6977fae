import Portcullis.Proofs.Cors.Verdict
import Portcullis.Proofs.Pipeline.Lifecycle
import Portcullis.Proofs.Pipeline.Readers

/-!
# What a host may do, and what a run does then

A licence says what the code of a host may do: which changes it may make behind the pipeline, whether it may save and
renew sessions, bind exchanges to sessions of its own choice and set cookies, and which repositories it may bring along.
Every step of a run within a licence has one of a few effects on the visit and on what stands behind the pipeline
(`Licence.Effect`, `Licence.Step`), so a whole run is a sequence of such steps (`Licence.Trace`), and what every step
keeps, the run keeps (`Licence.Trace.invariant`).

* `Program.Within`, `Stage.Within`: code and stages that keep within a licence.
* `Licence.lets_json` and the like: the library's own answers set no cookies.
-/

namespace Portcullis

variable {σ α β : Type}

namespace Journal

variable {m : Moment σ} {journal journal' : Journal σ}

/-- A context is loaded, and that succeeds. -/
def Loads (journal : Journal σ) : Prop :=
  ∃ m ∈ journal, ∃ mode, m.deed = .load mode true

theorem loads_cons : Loads (m :: journal) ↔ (∃ mode, m.deed = .load mode true) ∨ journal.Loads :=
  List.exists_mem_cons_iff ..

theorem loads_append : Loads (journal ++ journal') ↔ journal.Loads ∨ journal'.Loads := by
  simp only [Loads, List.mem_append, or_and_right, exists_or]

end Journal

/-- What the code of a host may do. -/
structure Licence (σ : Type) where
  /-- The changes that may be made to what stands behind the pipeline. -/
  behind : (σ → σ) → Prop
  /-- May contexts be saved and sessions be renewed? -/
  sessions : Prop
  /-- May exchanges be bound to sessions of one's own choice? -/
  binds : Prop
  /-- May cookies be set? -/
  cookies : Prop
  /-- The repositories at hand. -/
  repositories : Repository σ → Prop
  keepsRequest : ∀ repository, repositories repository → repository.KeepsRequest

namespace Licence

variable (l : Licence σ)

/-- These fields may be queued, or be part of an answer. -/
def Lets (headers : Headers) : Prop :=
  l.cookies ∨ headers.getAll "set-cookie" = []

/-! ## Steps -/

/-- What one step does to the visit and to what stands behind the pipeline; the flag says whether this context is
saved. -/
inductive Effect (context : SecurityContext) : Bool → Visit × σ → Visit × σ → Prop
  | still (visit : Visit) (s : σ) : Effect context false (visit, s) (visit, s)
  | behind {f : σ → σ} (hf : l.behind f) (visit : Visit) (s : σ) : Effect context false (visit, s) (visit, f s)
  | load {repository : Repository σ} (hr : l.repositories repository) (visit : Visit) (s : σ) :
    Effect context false (visit, s) (visit, (repository.load visit s).2)
  | save {repository : Repository σ} (hr : l.repositories repository) (hs : l.sessions) (visit : Visit) (s : σ) :
    Effect context true (visit, s) (repository.save context (visit, s)).2
  | rotate {repository : Repository σ} (hr : l.repositories repository) (hs : l.sessions) (visit : Visit) (s : σ) :
    Effect context false (visit, s) (repository.rotate (visit, s)).2
  | bind (hb : l.binds) (id : SessionId) (visit : Visit) (s : σ) : Effect context false (visit, s) (visit.bind id, s)
  | queue {name value : String} (hq : l.Lets [(name, value)]) (visit : Visit) (s : σ) :
    Effect context false (visit, s) ({ visit with pending := visit.pending ++ [(name, value)] }, s)

/-- One step, noted in a moment, leads from one passage to the next. -/
structure Step (p : Passage σ) (m : Moment σ) (q : Passage σ) : Prop where
  exchange : m.exchange = q.exchange
  effect : l.Effect q.exchange.context m.deed.isSave (p.exchange.toVisit, p.backend) (q.exchange.toVisit, q.backend)
  /-- The exchange knows the repository that its context has been loaded from. -/
  loads : q.exchange.repository.isSome = true ↔
    p.exchange.repository.isSome = true ∨ ∃ mode, m.deed = .load mode true

/-- The steps of a journal lead from one passage to another. -/
inductive Trace : Passage σ → Journal σ → Passage σ → Prop
  | refl (p : Passage σ) : Trace p [] p
  | step {p q q' : Passage σ} {m : Moment σ} {journal : Journal σ} (h : l.Step p m q) (rest : Trace q journal q') :
    Trace p (m :: journal) q'

variable {l} {p q q' : Passage σ} {journal journal' : Journal σ}

/-- A step that leaves the visit and what stands behind the pipeline alone. -/
theorem Step.still {deed : Deed} (hvisit : q.exchange.toVisit = p.exchange.toVisit) (hbackend : q.backend = p.backend)
    (hrepository : q.exchange.repository = p.exchange.repository) (hsave : deed.isSave = false)
    (hload : deed.isLoad = false) : l.Step p ⟨deed, q.exchange⟩ q where
  exchange := rfl
  effect := by
    rw [hvisit, hbackend, hsave]
    exact .still _ _
  loads := by
    rw [hrepository]
    constructor
    · exact .inl
    · rintro (h | ⟨mode, rfl⟩)
      · exact h
      · simp at hload

/-- A step with an effect on the visit or on what stands behind the pipeline, and with none on the repositories. -/
theorem Step.of_effect {deed : Deed} {saves : Bool}
    (heffect : l.Effect q.exchange.context saves (p.exchange.toVisit, p.backend) (q.exchange.toVisit, q.backend))
    (hrepository : q.exchange.repository = p.exchange.repository) (hsave : deed.isSave = saves)
    (hload : deed.isLoad = false) : l.Step p ⟨deed, q.exchange⟩ q where
  exchange := rfl
  effect := hsave ▸ heffect
  loads := by
    rw [hrepository]
    constructor
    · exact .inl
    · rintro (h | ⟨mode, rfl⟩)
      · exact h
      · simp at hload

/-- A save of the context; the state of the context may change with it. -/
theorem Step.save {repository : Repository σ} (hr : l.repositories repository) (hs : l.sessions) {deed : Deed}
    {state : ContextState}
    (hafter : q = { p.revisit (repository.save p.exchange.context (p.exchange.toVisit, p.backend)).2 with
      exchange :=
        { (p.revisit (repository.save p.exchange.context (p.exchange.toVisit, p.backend)).2).exchange with state } })
    (hsave : deed.isSave = true) (hload : deed.isLoad = false) : l.Step p ⟨deed, q.exchange⟩ q := by
  subst hafter
  exact .of_effect (.save hr hs _ _) rfl hsave hload

theorem Trace.trans (h : l.Trace p journal q) (h' : l.Trace q journal' q') : l.Trace p (journal ++ journal') q' := by
  induction h with
  | refl p => exact h'
  | step hstep _ ih => exact .step hstep (ih h')

/-- What every step keeps, a run keeps. -/
theorem Trace.invariant (h : l.Trace p journal q) (inv : Passage σ → Journal σ → Prop)
    (hstep : ∀ p m q past, inv p past → l.Step p m q → inv q (past ++ [m])) (past : Journal σ) (hp : inv p past) :
    inv q (past ++ journal) := by
  induction h generalizing past with
  | refl p => rwa [List.append_nil]
  | step hfirst _ ih =>
    have hnext := ih _ (hstep _ _ _ _ hp hfirst)
    rwa [List.append_assoc] at hnext

/-- At the end the exchange knows a repository exactly if the context has been loaded, or if it knew one before. -/
theorem Trace.loads (h : l.Trace p journal q) : q.exchange.repository.isSome = true ↔
    p.exchange.repository.isSome = true ∨ journal.Loads := by
  induction h with
  | refl p => simp [Journal.Loads]
  | step hstep _ ih =>
    rw [ih, hstep.loads, or_assoc, Journal.loads_cons]

end Licence

/-! ## Code within a licence -/

/-- The program keeps within the licence. It may look at everything and change the context as it likes. -/
inductive Program.Within (l : Licence σ) : Program σ → Prop
  | answer {response : Response} (h : l.Lets response.headers) : Within l (.answer response)
  | fail (failure : Failure) : Within l (.fail failure)
  | look {next : Exchange σ → Program σ} (h : ∀ e, Within l (next e)) : Within l (.look next)
  | ahead {next : Nat → Program σ} (h : ∀ n, Within l (next n)) : Within l (.ahead next)
  | touch {f : σ → σ} {next : σ → Program σ} (hf : l.behind f) (h : ∀ s, Within l (next s)) : Within l (.touch f next)
  | authenticate (a : Authentication) {next : Program σ} (h : Within l next) : Within l (.authenticate a next)
  | clear {next : Program σ} (h : Within l next) : Within l (.clear next)
  | save {next : Except RepositoryError Bool → Program σ} (hs : l.sessions) (h : ∀ saved, Within l (next saved)) :
    Within l (.save next)
  | rotate {next : Except RepositoryError Bool → Program σ} (hs : l.sessions) (h : ∀ rotated, Within l (next rotated)) :
    Within l (.rotate next)
  | bind (id : SessionId) {next : Program σ} (hb : l.binds) (h : Within l next) : Within l (.bind id next)
  | queue {name value : String} {next : Program σ} (hq : l.Lets [(name, value)]) (h : Within l next) :
    Within l (.queue name value next)
  | mark (name : String) {next : Bool → Program σ} (h : ∀ b, Within l (next b)) : Within l (.mark name next)
  | pass {next : Except Failure Response → Program σ}
    (h : ∀ outcome, (∀ response, outcome = .ok response → l.Lets response.headers) → Within l (next outcome)) :
    Within l (.pass next)

/-- The stage is one of the library's own, over repositories at hand, or code that keeps within the licence. -/
inductive Stage.Within (l : Licence σ) : Stage σ → Prop
  | tracing : Within l .tracing
  | metrics : Within l .metrics
  | cors (source : Cors.Source) (reject : RejectPolicy) : Within l (.cors source reject)
  | autoSave {repository : Repository σ} (hr : l.repositories repository) (hs : l.sessions) :
    Within l (.autoSave repository)
  | explicitSave {repository : Repository σ} (hr : l.repositories repository) : Within l (.explicitSave repository)
  | formLogin (settings : FormLogin) (users : Users) : Within l (.formLogin settings users)
  | httpBasic (realm : String) (users : Users) : Within l (.httpBasic realm users)
  | anonymous : Within l .anonymous
  | authorization (rules : List Rule) (entry : EntryPoint) : Within l (.authorization rules entry)
  | custom (name : String) {code : Program σ} (h : code.Within l) : Within l (.custom name code)
  | entered {note : σ → σ} {inner : Stage σ} (hnote : l.behind note) (h : Within l inner) :
    Within l (.entered note inner)

/-- A form that this request submits is accepted by the stage. -/
def Stage.admits (r : Request) : Stage σ → Bool
  | .formLogin settings users => !settings.asksPage r && settings.isSubmission r && (settings.verdict users r).isSome
  | .entered _ inner => inner.admits r
  | _ => false

/-- The exchange is about this request, and works with repositories at hand. -/
structure Passage.Held (l : Licence σ) (r : Request) (p : Passage σ) : Prop where
  request : p.exchange.request = r
  hook : ∀ repository, p.exchange.hook = some repository → l.repositories repository
  repository : ∀ repository, p.exchange.repository = some repository → l.repositories repository

theorem Passage.held_new (l : Licence σ) (r : Request) (cookieName : String) (metrics : Metrics) (s : σ) :
    Passage.Held l r ⟨.ofRequest r cookieName, metrics, s⟩ :=
  ⟨rfl, nofun, nofun⟩

/-! ## Own answers -/

namespace Licence

variable {l : Licence σ}

theorem ownFields_ne_cookie : ∀ name ∈ ["content-type", "location", "www-authenticate"],
    Text.sameIgnoringCase name "set-cookie" = false := by
  decide +kernel

theorem lets_json (status : Nat) (body : Json) : l.Lets (Response.json status body).headers :=
  .inr (Headers.getAll_eq_nil_of_names (by simp [Response.json]) ownFields_ne_cookie)

theorem lets_redirect (location : String) : l.Lets (Response.redirect location).headers :=
  .inr (Headers.getAll_eq_nil_of_names (by simp [Response.redirect]) ownFields_ne_cookie)

theorem lets_challenge (realm : String) : l.Lets (HttpBasic.challenge realm).headers := by
  have hne : Text.sameIgnoringCase "set-cookie" "www-authenticate" = false := by
    rw [Text.sameIgnoringCase_comm]
    exact ownFields_ne_cookie _ (by simp)
  right
  rw [HttpBasic.challenge, Response.setHeader, Headers.getAll_set_of_ne _ _ hne]
  exact Headers.getAll_eq_nil_of_names (by simp [Response.error, Response.json]) ownFields_ne_cookie

theorem lets_entry (entry : EntryPoint) : l.Lets entry.response.headers := by
  cases entry with
  | loginPage page => exact lets_redirect page
  | basicChallenge realm => exact lets_challenge realm
  | forbidden => exact lets_json _ _

/-- What is decided about another origin sets no cookie. -/
theorem getAll_decision {source : Cors.Source} {r : Request} {headers : Headers} {preflight : Bool}
    (h : Cors.decide source r = .allow headers preflight) : headers.getAll "set-cookie" = [] := by
  obtain ⟨policy, answer, -, hspeaks⟩ := Cors.granted_of_decide h
  exact hspeaks.getAll_other (Cors.names_ne_redirect "set-cookie" (by simp))

/-- With the headers of a decision, an answer sets the cookies that it has set before. -/
theorem lets_merged {source : Cors.Source} {r : Request} {headers : Headers} {preflight : Bool}
    (h : Cors.decide source r = .allow headers preflight) {response : Response} (hresponse : l.Lets response.headers) :
    l.Lets (Stage.mergeHeaders response headers).headers := by
  have hvary : Text.sameIgnoringCase "set-cookie" "vary" = false := by
    rw [Text.sameIgnoringCase_comm]
    exact Cors.names_ne_redirect "set-cookie" (by simp) "vary" (by simp [Cors.readerNames])
  have hnone := getAll_decision h
  rcases hresponse with hcookies | hresponse
  · exact .inl hcookies
  · right
    rw [Stage.getAll_mergeHeaders hvary, hnone]
    exact hresponse

end Licence

end Portcullis
