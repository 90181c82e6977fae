import Portcullis.Proofs.Guard.Plan
import Portcullis.Proofs.Pipeline.Readers
import Portcullis.Proofs.Pipeline.Transit
import Portcullis.Proofs.Session.Contexts

/-!
# Hosts that leave logins alone

A host may add handlers, stages and wrappers of its own. It leaves logins alone if these neither change the security
context nor the session, and put nothing into the sessions in memory; they may look at everything, answer, fail, retry,
queue headers, let time pass and end sessions.

* `Blueprint.forall_mem_stages`: what holds of every stage of a chain that has been built.
* `Blueprint.stages_tame`: the stages of such a host's chains, each the library's own or one that leaves logins alone.
* `Guard.after`: what a guard is at work on after requests and what happens between them.
* `Guard.serve_eq`, `Guard.transit_enter`: what is served, read off the tree of the chain.
-/

namespace Portcullis

variable {σ : Type} (view : σ → Sessions)

/-- Between two states of a passage, neither the context nor the session has been changed, and nothing has been put
into the sessions. -/
structure Passage.Undisturbed (p q : Passage σ) : Prop where
  request : q.exchange.request = p.exchange.request
  context : q.exchange.context = p.exchange.context
  session : q.exchange.session = p.exchange.session
  hook : q.exchange.hook = p.exchange.hook
  repository : q.exchange.repository = p.exchange.repository
  sheds : (view p.backend).Sheds (view q.backend)

/-- The handler leaves logins alone. -/
def Flow.Quiet (handler : Flow σ Response) : Prop :=
  ∀ p : Passage σ, p.Undisturbed view (handler p).2

/-- What the host does behind the pipeline puts nothing into the sessions. -/
def QuietBehind (f : σ → σ) : Prop :=
  ∀ s, (view s).Sheds (view (f s))

/-- The program leaves logins alone. -/
inductive Program.Quiet : Program σ → Prop
  | answer (response : Response) : Quiet (.answer response)
  | fail (failure : Failure) : Quiet (.fail failure)
  | look {next : Exchange σ → Program σ} (h : ∀ e, Quiet (next e)) : Quiet (.look next)
  | ahead {next : Nat → Program σ} (h : ∀ n, Quiet (next n)) : Quiet (.ahead next)
  | touch {f : σ → σ} {next : σ → Program σ} (hf : QuietBehind view f) (h : ∀ s, Quiet (next s)) :
    Quiet (.touch f next)
  | queue (name value : String) {next : Program σ} (h : Quiet next) : Quiet (.queue name value next)
  | mark (name : String) {next : Bool → Program σ} (h : ∀ b, Quiet (next b)) : Quiet (.mark name next)
  | pass {next : Except Failure Response → Program σ} (h : ∀ outcome, Quiet (next outcome)) : Quiet (.pass next)

/-- The repository keeps contexts in the sessions of the store, or nowhere. -/
inductive Repository.Over (store : Store σ) : Repository σ → Prop
  | inSession (allow always : Bool) : Over store (.inSession store allow always)
  | none : Over store .none

/-- The stage is one of the library's own, over the shared store and the shared accounts, or leaves logins alone. -/
inductive Stage.Tame (shared : Shared σ) : Stage σ → Prop
  | tracing : Tame shared .tracing
  | metrics : Tame shared .metrics
  | cors (source : Cors.Source) (reject : RejectPolicy) : Tame shared (.cors source reject)
  | autoSave {repository : Repository σ} (h : repository.Over shared.store) : Tame shared (.autoSave repository)
  | explicitSave {repository : Repository σ} (h : repository.Over shared.store) : Tame shared (.explicitSave repository)
  | formLogin (settings : FormLogin) {users : Users} (h : shared.users = some users) :
    Tame shared (.formLogin settings users)
  | httpBasic (realm : String) {users : Users} (h : shared.users = some users) : Tame shared (.httpBasic realm users)
  | anonymous : Tame shared .anonymous
  | authorization (rules : List Rule) (entry : EntryPoint) : Tame shared (.authorization rules entry)
  | custom (name : String) {code : Program σ} (h : code.Quiet view) : Tame shared (.custom name code)
  | entered {note : σ → σ} {inner : Stage σ} (hnote : QuietBehind view note) (h : Tame shared inner) :
    Tame shared (.entered note inner)

/-- What the host has asked for leaves logins alone: the repository, the stages it adds and the wrappers. -/
structure Blueprint.Tame (b : Blueprint σ) (shared : Shared σ) : Prop where
  repository : ∀ r, b.context.repository = some r → r.Over shared.store
  added : ∀ entry ∈ b.added, entry.2.Tame view shared
  wrappers : ∀ wrapper ∈ b.wrappers, ∀ stage : Stage σ, stage.Tame view shared → (wrapper stage).Tame view shared

variable {view} {b : Blueprint σ} {shared : Shared σ}

theorem Blueprint.Plain.tame (h : b.Plain) (hr : b.context.repository = none) : b.Tame view shared where
  repository r h' := by simp [hr] at h'
  added := by simp [h.added]
  wrappers := by simp [h.wrappers]

theorem Repository.over_default (policy : SessionPolicy) (store : Store σ) :
    (Blueprint.defaultRepository policy store).Over store := by
  cases policy
  case stateless => exact .none
  all_goals exact .inSession _ _

theorem Repository.Over.keepsRequest {store : Store σ} {repository : Repository σ} (h : repository.Over store) :
    repository.KeepsRequest := by
  cases h with
  | inSession allow always => exact keepsRequest_inSession store allow always
  | none => exact keepsRequest_none

namespace Blueprint

/-- What looking up has found. -/
structure Found (b : Blueprint σ) (shared : Shared σ) (plan : Plan σ) : Prop where
  context : plan.context = if b.context.disabled then none else
    some (b.context.explicitSave, b.context.repository.getD (defaultRepository b.session.policy shared.store))
  formLogin : ∀ form users, plan.formLogin = some (form, users) → shared.users = some users
  httpBasic : ∀ realm users, plan.httpBasic = some (realm, users) → shared.users = some users

theorem usersFor_eq_ok {stage : String} {users : Users} (h : usersFor shared stage = .ok users) :
    shared.users = some users := by
  unfold usersFor at h
  cases hu : shared.users with
  | none => simp [hu] at h
  | some users' => simpa [hu] using h

theorem found_of_plan {plan : Plan σ} (h : b.plan shared = .ok plan) : b.Found shared plan := by
  obtain ⟨cors, -, h⟩ := Steps.bind_eq_ok_iff.1 h
  obtain ⟨form, hform, h⟩ := Steps.bind_eq_ok_iff.1 h
  obtain ⟨basic, hbasic, h⟩ := Steps.bind_eq_ok_iff.1 h
  obtain ⟨rules, -, h⟩ := Steps.bind_eq_ok_iff.1 h
  cases h
  refine ⟨rfl, ?_, ?_⟩
  · rintro f users rfl
    obtain ⟨f', -, h⟩ := Steps.mapM_eq_some hform
    obtain ⟨users', husers, h⟩ := Steps.bind_eq_ok_iff.1 h
    cases h
    exact usersFor_eq_ok husers
  · rintro realm users rfl
    obtain ⟨realm', -, h⟩ := Steps.mapM_eq_some hbasic
    obtain ⟨users', husers, h⟩ := Steps.bind_eq_ok_iff.1 h
    cases h
    exact usersFor_eq_ok husers

theorem formLogin_of_plan {plan : Plan σ} (h : b.plan shared = .ok plan) {form : FormLogin} {users : Users}
    (hform : b.formLogin = some form) (husers : shared.users = some users) : plan.formLogin = some (form, users) := by
  obtain ⟨cors, -, h⟩ := Steps.bind_eq_ok_iff.1 h
  obtain ⟨found, hfound, h⟩ := Steps.bind_eq_ok_iff.1 h
  obtain ⟨basic, -, h⟩ := Steps.bind_eq_ok_iff.1 h
  obtain ⟨rules, -, h⟩ := Steps.bind_eq_ok_iff.1 h
  cases h
  rw [hform, usersFor, husers] at hfound
  cases hfound
  rfl

/-- What no wrapper takes away from a stage, wrapping does not take away. -/
theorem wrapStage_of {P : Stage σ → Prop} (hwrappers : ∀ wrapper ∈ b.wrappers, ∀ stage, P stage → P (wrapper stage))
    {stage : Stage σ} (h : P stage) : P (b.wrapStage stage) := by
  unfold wrapStage
  generalize b.wrappers = wrappers at hwrappers
  induction wrappers generalizing stage with
  | nil => exact h
  | cons wrapper rest ih =>
    rw [List.forall_mem_cons] at hwrappers
    exact ih (hwrappers.1 stage h) hwrappers.2

/-- Where all that the wrappers do is to do something on entering a stage, a stage does that, and then what it does
without them. -/
theorem wrapStage_entered [Clocked σ] {P : (σ → σ) → Prop} (hid : P fun s => s)
    (hcomp : ∀ f g, P f → P g → P fun s => g (f s))
    (hb : ∀ wrapper ∈ b.wrappers, ∃ note, P note ∧ wrapper = .entered note) : ∃ note, P note ∧
      ∀ stage ahead p, (b.wrapStage stage).run ahead p = stage.run ahead { p with backend := note p.backend } := by
  unfold wrapStage
  generalize b.wrappers = wrappers at hb
  induction wrappers with
  | nil => exact ⟨fun s => s, hid, fun _ _ _ => rfl⟩
  | cons wrapper rest ih =>
    rw [List.forall_mem_cons] at hb
    obtain ⟨note, hnote, rfl⟩ := hb.1
    obtain ⟨note', hnote', hrun⟩ := ih hb.2
    exact ⟨fun s => note (note' s), hcomp _ _ hnote' hnote, fun stage ahead p => hrun (.entered note stage) ahead p⟩

/-- Where contexts are kept in the sessions of the shared store, if that is all that has been asked for. -/
theorem Found.over {plan : Plan σ} (h : b.Found shared plan)
    (hrepository : ∀ r, b.context.repository = some r → r.Over shared.store) {c : Bool × Repository σ}
    (hc : plan.context = some c) : c.2.Over shared.store := by
  rw [h.context] at hc
  split at hc
  · cases hc
  cases hc
  cases hr : b.context.repository with
  | none => exact Repository.over_default _ _
  | some r => exact hrepository r hr

/-- What holds of the library's own stages, as far as they are wanted, and of those of the host, and what no wrapper
takes away, holds of every stage of the chain. -/
theorem forall_mem_stages {P : Stage σ → Prop}
    (hwrappers : ∀ wrapper ∈ b.wrappers, ∀ stage, P stage → P (wrapper stage)) (hadded : ∀ entry ∈ b.added, P entry.2)
    (hplan : ∀ plan, b.Found shared plan → ∀ stage ∈ plan.stages, P stage) {c : Chain σ} (h : b.build shared = .ok c) :
    ∀ stage ∈ c.stages, P stage := by
  obtain ⟨matcher, -, h⟩ := Steps.bind_eq_ok_iff.1 h
  obtain ⟨own, hown, h⟩ := Steps.bind_eq_ok_iff.1 h
  cases h
  intro stage hstage
  obtain ⟨entry, hentry, rfl⟩ := List.mem_map.1 hstage
  apply wrapStage_of hwrappers
  rcases List.mem_append.1 (List.mem_mergeSort.1 hentry) with h | h
  · rw [ownStages_eq] at hown
    obtain ⟨plan, hfound, rfl⟩ := Steps.map_eq_ok_iff.1 hown
    exact hplan plan (found_of_plan hfound) _ (List.mem_map_of_mem h)
  · exact hadded entry h

theorem plan_tame (hb : b.Tame view shared) (plan : Plan σ) (h : b.Found shared plan) :
    ∀ stage ∈ plan.stages, stage.Tame view shared := by
  intro stage hstage
  rcases Plan.mem_stages.1 hstage with ⟨-, rfl⟩ | ⟨-, rfl⟩ | ⟨c, -, rfl⟩ | ⟨c, hc, rfl⟩ | ⟨f, hf, rfl⟩ |
    ⟨basic, hbasic, rfl⟩ | ⟨-, rfl⟩ | ⟨a, -, rfl⟩
  · exact .tracing
  · exact .metrics
  · exact .cors ..
  · have hover := h.over hb.repository hc
    rcases c with ⟨_ | _, repository⟩
    · exact .autoSave hover
    · exact .explicitSave hover
  · exact .formLogin _ (h.formLogin f.1 f.2 hf)
  · exact .httpBasic _ (h.httpBasic basic.1 basic.2 hbasic)
  · exact .anonymous
  · exact .authorization ..

/-- The stages of a chain that such a blueprint is built into. -/
theorem stages_tame (hb : b.Tame view shared) {c : Chain σ} (h : b.build shared = .ok c) :
    ∀ stage ∈ c.stages, stage.Tame view shared :=
  forall_mem_stages hb.wrappers hb.added (plan_tame hb) h

end Blueprint

/-! ## Runs -/

namespace Guard

/-- What happens to a guard. -/
inductive Event (σ : Type)
  /-- A request comes in, and the handler is the one to start for it. -/
  | request (r : Request) (handler : Flow σ Response)
  /-- Something else happens behind the pipeline, such as the passing of time. -/
  | meanwhile (f : σ → σ)

/-- The event leaves logins alone. -/
def Event.Quiet (view : σ → Sessions) : Event σ → Prop
  | .request _ handler => handler.Quiet view
  | .meanwhile f => QuietBehind view f

/-- What the guard is at work on after events, the latest of which stands first. -/
def after [Clocked σ] (g : Guard σ) (d : Desk σ) : List (Event σ) → Desk σ
  | [] => d
  | .request r handler :: past => (g.runRequest handler r (g.after d past)).2.2
  | .meanwhile f :: past => { g.after d past with backend := f (g.after d past).backend }

/-- The state in which a request enters its chain. -/
def enter (g : Guard σ) (r : Request) (d : Desk σ) : Passage σ :=
  ⟨g.newExchange r, d.metrics, d.backend⟩

/-- The session id that a request presents in the cookie of its chain. -/
def presented (g : Guard σ) (r : Request) : Option SessionId :=
  (g.newExchange r).session

/-- What a guard makes of a request is what its chain makes of it. -/
theorem transit_enter [Clocked σ] {g : Guard σ} {r : Request} {c : Chain σ} (hchain : g.chainFor? r.path = some c)
    (d : Desk σ) : g.transit (g.enter r d) = Pipeline.transit c.stages (g.enter r d) := by
  have hpath : g.chainFor? (g.enter r d).exchange.request.path = some c := hchain
  rw [transit, hpath]

/-- What is served is the outcome of the guard's tree, with what has been queued on the way. -/
theorem serve_eq [Clocked σ] (g : Guard σ) (handler : Flow σ Response) (r : Request) (d : Desk σ) :
    g.serve handler r d =
      (((g.transit (g.enter r d)).run handler).2.exchange.finish
        (((g.transit (g.enter r d)).run handler).1.toOption.getD internalError),
      ⟨((g.transit (g.enter r d)).run handler).2.metrics, ((g.transit (g.enter r d)).run handler).2.backend⟩) := by
  rw [run_transit]
  rfl

/-- The stages that a request for a path goes through; none if there is no chain. -/
def stagesFor (g : Guard σ) (path : String) : List (Stage σ) :=
  ((g.chainFor? path).map (·.stages)).getD []

theorem stagesFor_eq {g : Guard σ} {r : Request} {c : Chain σ} (hchain : g.chainFor? r.path = some c) :
    g.stagesFor r.path = c.stages := by
  rw [stagesFor, hchain]
  rfl

theorem mem_stagesFor {g : Guard σ} {path : String} {stage : Stage σ} :
    stage ∈ g.stagesFor path ↔ ∃ c, g.chainFor? path = some c ∧ stage ∈ c.stages := by
  rw [stagesFor]
  cases g.chainFor? path <;> simp

/-- Running a request is running its stages. -/
theorem runRequest_eq [Clocked σ] (g : Guard σ) (handler : Flow σ Response) (r : Request) (d : Desk σ) :
    g.runRequest handler r d =
      ((Pipeline.run handler (g.stagesFor r.path) (g.enter r d)).1,
        (Pipeline.run handler (g.stagesFor r.path) (g.enter r d)).2.exchange,
        ⟨(Pipeline.run handler (g.stagesFor r.path) (g.enter r d)).2.metrics,
          (Pipeline.run handler (g.stagesFor r.path) (g.enter r d)).2.backend⟩) := by
  have hexecute : g.execute handler (g.enter r d) = Pipeline.run handler (g.stagesFor r.path) (g.enter r d) := by
    rw [execute, Steps.bind_apply]
    simp only [Flow.request, stagesFor]
    have hpath : (g.enter r d).exchange.request.path = r.path := rfl
    rw [hpath]
    cases g.chainFor? r.path with
    | none => rfl
    | some c => rfl
  rw [← hexecute]
  rfl

end Guard

/-! ## A chain with basic authentication, and one that leaves saving to the handler -/

/-- The store in memory, and the account of `ann`, whose password is `secret`. -/
def Shared.ofAnn : Shared Sessions where
  store := Sessions.store
  users := some ⟨[{ username := "ann", password := "secret" }]⟩

/-- Basic authentication, and nothing else but what every chain has. -/
def Chain.basicOnly : Chain Sessions where
  matcher := ⟨"/**", [.anyDepth]⟩
  stages := [.autoSave (.inSession Sessions.store true false),
    .httpBasic "Realm" ⟨[{ username := "ann", password := "secret" }]⟩, .anonymous]
  cookieName := "SESSION"

theorem Chain.build_basicOnly : Blueprint.build { httpBasic := some "Realm" } Shared.ofAnn = .ok Chain.basicOnly := by
  rw [Blueprint.build_eq ⟨rfl, rfl⟩]
  rfl

/-- A chain that leaves saving to the handler. -/
def Chain.explicitOnly : Chain Sessions where
  matcher := ⟨"/**", [.anyDepth]⟩
  stages := [.explicitSave (.inSession Sessions.store true false), .anonymous]
  cookieName := "SESSION"

theorem Chain.build_explicitOnly :
    Blueprint.build { context := { explicitSave := true } } Shared.ofAnn = .ok Chain.explicitOnly := by
  rw [Blueprint.build_eq ⟨rfl, rfl⟩]
  rfl

/-- A request with the password of `ann`. -/
def Request.ofAnn : Request where
  method := .get
  path := "/"
  headers := [("authorization", "Basic YW5uOnNlY3JldA==")]

/-- The same request, from a client with a session. -/
def Request.ofAnnInSession : Request :=
  { Request.ofAnn with cookies := [("SESSION", (Ulid.ofNat 0).text)] }

/-- A handler that looks at nothing. -/
def Flow.allRight : Flow Sessions Response :=
  pure ⟨200, [], .null⟩

theorem Flow.quiet_allRight : Flow.allRight.Quiet id :=
  fun _ => ⟨rfl, rfl, rfl, rfl, rfl, .refl _⟩

namespace Guard

/-- A guard with that chain. -/
def basicOnly : Guard Sessions :=
  ⟨[.basicOnly]⟩

/-- No requests and no sessions yet. -/
def newDesk : Desk Sessions where
  backend := { supply := Ulid.ofNat }

end Guard

end Portcullis
