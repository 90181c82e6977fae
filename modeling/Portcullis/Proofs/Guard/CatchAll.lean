import Portcullis.Proofs.Guard.Hosting
import Portcullis.Proofs.PathPattern.Everything
import Portcullis.Proofs.Pipeline.Readers

/-!
# A closed chain at the end

A guard's last chain is for `/**`, and its only rule denies everything. Whatever else it is made of, what enters it is
refused before the handler is started (`Pipeline.meets_refused`), since no stage of it changes the request
(`Stage.keeps_about`). But `/**` stands for paths without a line break only (`PathPattern.covers_everything_iff`): the
other ones find no chain, and go straight to the handler (`Guard.catchAll_shut_but_line_breaks`).
-/

namespace Portcullis

/-! ## Stages leave requests as they are -/

variable {σ : Type}

/-- The passage is about this request, and stays so whatever the repositories at hand do. -/
structure Passage.About (r : Request) (p : Passage σ) : Prop where
  request : p.exchange.request = r
  hook : ∀ repository, p.exchange.hook = some repository → repository.KeepsRequest
  repository : ∀ repository, p.exchange.repository = some repository → repository.KeepsRequest

namespace Passage.About

variable {r : Request} {p : Passage σ}

theorem mark (h : p.About r) (name : String) : About r { p with exchange := p.exchange.mark name } :=
  ⟨by simpa using h.request, by simpa using h.hook, by simpa using h.repository⟩

theorem loadContext (h : p.About r) {repository : Repository σ} (hr : repository.KeepsRequest) :
    (Flow.loadContext repository p).2.About r := by
  rw [Flow.loadContext_apply]
  split
  · refine ⟨h.request, h.hook, ?_⟩
    rintro _ ⟨⟩
    exact hr
  · exact ⟨h.request, h.hook, h.repository⟩

theorem saveContext (h : p.About r) : (Flow.saveContext p).2.About r := by
  refine Flow.keeps_saveContext h (fun repository hr => ?_) fun q state hq => ⟨hq.request, hq.hook, hq.repository⟩
  exact ⟨(h.hook repository hr).save r _ _ _ h.request, h.hook, h.repository⟩

theorem rotateSession (h : p.About r) : (Flow.rotateSession p).2.About r := by
  refine Flow.keeps_rotateSession h fun repository hr => ?_
  exact ⟨(h.repository repository hr).rotate r _ _ h.request, h.hook, h.repository⟩

theorem succeed (h : p.About r) (f : FormLogin) (a : Authentication) : (f.succeed a p).2.About r := by
  rw [f.succeed_snd]
  split
  · have hrotated := h.rotateSession
    exact saveContext ⟨hrotated.request, hrotated.hook, hrotated.repository⟩
  · exact h.rotateSession

end Passage.About

/-- Code of the host works on the request that it has got. -/
theorem Program.keeps_about {r : Request} (code : Program σ) (n : Nat) {p : Passage σ} (hp : p.About r) :
    (code.transit n p).Keeps (Passage.About r) := by
  induction code generalizing p with
  | answer response => exact hp
  | fail failure => exact hp
  | look next ih => exact ih _ hp
  | ahead next ih => exact ih _ hp
  | touch f next ih => exact ih _ ⟨hp.request, hp.hook, hp.repository⟩
  | authenticate a next ih => exact ih ⟨hp.request, hp.hook, hp.repository⟩
  | clear next ih => exact ih ⟨hp.request, hp.hook, hp.repository⟩
  | save next ih =>
    have hsaved := hp.saveContext
    exact Transit.meets_step (fun saved q hq => ih saved (by rwa [hq] at hsaved)) fun e q hq => by rwa [hq] at hsaved
  | rotate next ih =>
    have hrotated := hp.rotateSession
    exact Transit.meets_step (fun moved q hq => ih moved (by rwa [hq] at hrotated))
      fun e q hq => by rwa [hq] at hrotated
  | bind id next ih => exact ih ⟨hp.request, hp.hook, hp.repository⟩
  | queue name value next ih => exact ih ⟨hp.request, hp.hook, hp.repository⟩
  | mark name next ih => exact ih _ (hp.mark name)
  | pass next ih => exact ⟨hp, fun outcome q hq => ih outcome hq⟩

namespace Stage

/-- The repositories that the stage brings along leave requests as they are. -/
def KeepsRequest : Stage σ → Prop
  | .autoSave repository => repository.KeepsRequest
  | .explicitSave repository => repository.KeepsRequest
  | .entered _ inner => inner.KeepsRequest
  | _ => True

variable [Clocked σ] {r : Request}

theorem keeps_about {stage : Stage σ} (h : stage.KeepsRequest) : stage.Keeps (Passage.About r) := by
  induction stage with
  | tracing => exact keeps_tracing
  | metrics => exact keeps_metrics fun _ _ hp => ⟨hp.request, hp.hook, hp.repository⟩
  | cors source reject => exact keeps_cors fun _ _ hp => ⟨hp.request, hp.hook, hp.repository⟩
  | autoSave repository =>
    refine keeps_autoSave (fun p hp => (hp.mark _).loadContext h) (fun p hp => ?_) fun p state hp => ?_
    · exact ⟨h.save r _ _ _ hp.request, hp.hook, hp.repository⟩
    · exact ⟨hp.request, hp.hook, hp.repository⟩
  | explicitSave repository =>
    refine keeps_explicitSave (fun p hp => (hp.mark _).loadContext h) fun p hook state hhook hp => ?_
    refine ⟨hp.request, fun installed hinstalled => ?_, hp.repository⟩
    rw [hhook installed hinstalled]
    exact h
  | formLogin settings users => exact keeps_formLogin fun p a hp _ _ => hp.succeed settings a
  | httpBasic realm users => exact keeps_httpBasic fun p a hp _ => ⟨hp.request, hp.hook, hp.repository⟩
  | anonymous => exact keeps_anonymous fun p hp _ => ⟨hp.request, hp.hook, hp.repository⟩
  | authorization rules entry => exact keeps_authorization
  | custom name code => exact fun n p hp => code.keeps_about n hp
  | entered note inner ih => exact fun n p hp => ih h n _ ⟨hp.request, hp.hook, hp.repository⟩

/-- The stage passes nothing on that is about this request. -/
def Refuses (r : Request) (stage : Stage σ) : Prop :=
  ∀ n p, p.About r → (stage.transit n p).Meets (fun _ => False) (fun _ _ _ => False) fun _ q => q.About r

theorem refuses_authorization {rules : List Rule} {entry : EntryPoint}
    (h : ∀ context, Authorization.grants rules r context = false) :
    (authorization rules entry : Stage σ).Refuses r := by
  intro n p hp
  rw [transit, hp.request, h, if_neg Bool.false_ne_true]
  split <;> exact hp

theorem Refuses.entered {stage : Stage σ} (h : stage.Refuses r) (note : σ → σ) : (entered note stage).Refuses r :=
  fun n _ hp => h n _ ⟨hp.request, hp.hook, hp.repository⟩

end Stage

/-- What lies ahead of a stage that refuses a request is not started for it. -/
theorem Pipeline.meets_refused [Clocked σ] {r : Request} {front tail : List (Stage σ)} {stage : Stage σ}
    (hfront : ∀ other ∈ front, other.KeepsRequest) (hstage : stage.Refuses r) {p : Passage σ} (hp : p.About r) :
    (Pipeline.transit (front ++ stage :: tail) p).Meets (fun _ => False) (fun _ _ _ => False) fun _ q => q.About r := by
  induction front generalizing p with
  | nil => exact Pipeline.meets_cons (fun n => hstage n p hp) fun _ h => h.elim
  | cons first front ih =>
    rw [List.forall_mem_cons] at hfront
    exact Pipeline.meets_cons (fun n => Stage.keeps_about hfront.1 n p hp) fun q hq => ih hfront.2 hq

/-! ## Chains that are closed -/

namespace Blueprint

variable {b : Blueprint σ} {shared : Shared σ} {r : Request}

/-- The chain is for everything, and its only rule denies everything. -/
structure CatchAll (b : Blueprint σ) : Prop where
  matcher : b.matcher = "/**"
  rules : b.rules = some [⟨"/**", [], .denyAll⟩]

/-- What the host has asked for leaves requests and stages as they are: its repositories keep the request, and its
wrappers do no more than take note of those that enter a stage. -/
structure KeepsRequests (b : Blueprint σ) : Prop where
  repository : ∀ repository, b.context.repository = some repository → repository.KeepsRequest
  added : ∀ entry ∈ b.added, entry.2.KeepsRequest
  wrappers : ∀ wrapper ∈ b.wrappers, ∀ stage, wrapper stage = stage ∨ ∃ note, wrapper stage = .entered note stage

theorem Plain.keepsRequests (h : b.Plain) (hr : b.context.repository = none) : b.KeepsRequests where
  repository r h' := by simp [hr] at h'
  added := by simp [h.added]
  wrappers := by simp [h.wrappers]

/-- What holds of a stage and of all that note who enters, holds of the wrapped stage. -/
theorem KeepsRequests.wrapStage (hb : b.KeepsRequests) {P : Stage σ → Prop}
    (hentered : ∀ note stage, P stage → P (.entered note stage)) {stage : Stage σ} (h : P stage) :
    P (b.wrapStage stage) := by
  refine wrapStage_of (fun wrapper hwrapper stage h => ?_) h
  rcases hb.wrappers wrapper hwrapper stage with heq | ⟨note, heq⟩ <;> rw [heq]
  · exact h
  · exact hentered note stage h

theorem keepsRequest_of_plan (hb : ∀ repository, b.context.repository = some repository → repository.KeepsRequest)
    {plan : Plan σ} (h : b.Found shared plan) : ∀ stage ∈ plan.stages, stage.KeepsRequest := by
  intro stage hstage
  rcases Plan.mem_stages.1 hstage with ⟨-, rfl⟩ | ⟨-, rfl⟩ | ⟨c, -, rfl⟩ | ⟨c, hc, rfl⟩ | ⟨f, -, rfl⟩ |
    ⟨basic, -, rfl⟩ | ⟨-, rfl⟩ | ⟨a, -, rfl⟩
  case inr.inr.inr.inl =>
    have hrepository : c.2.KeepsRequest := by
      rw [h.context] at hc
      split at hc
      · cases hc
      · cases hc
        cases hr : b.context.repository with
        | none => exact (Repository.over_default _ _).keepsRequest
        | some repository => exact hb repository hr
    rcases c with ⟨_ | _, repository⟩ <;> exact hrepository
  all_goals trivial

theorem authorization_of_plan (hb : b.CatchAll) {plan : Plan σ} (h : b.plan shared = .ok plan) :
    plan.authorization = some ([⟨.everything, [], .denyAll⟩], b.entryPoint) := by
  obtain ⟨cors, -, h⟩ := Steps.bind_eq_ok_iff.1 h
  obtain ⟨form, -, h⟩ := Steps.bind_eq_ok_iff.1 h
  obtain ⟨basic, -, h⟩ := Steps.bind_eq_ok_iff.1 h
  obtain ⟨authorization, hauthorization, h⟩ := Steps.bind_eq_ok_iff.1 h
  cases h
  have hread : List.mapM readRule [⟨"/**", [], .denyAll⟩] = .ok [⟨.everything, [], .denyAll⟩] := by
    simp only [List.mapM_cons, List.mapM_nil, readRule, PathPattern.ofSetting_everything]
    rfl
  rw [hb.rules, Option.mapM_some, hread] at hauthorization
  cases hauthorization
  rfl

/-- The single rule denies whatever the pattern stands for. -/
theorem grants_denyAll (hcovered : PathPattern.everything.covers r.path = true) (context : SecurityContext) :
    Authorization.grants [⟨.everything, [], .denyAll⟩] r context = false := by
  simp [Authorization.grants, Authorization.rule?, Rule.covers, hcovered, Access.granted]

theorem matcher_of_build (hb : b.CatchAll) {c : Chain σ} (h : b.build shared = .ok c) : c.matcher = .everything := by
  obtain ⟨matcher, hmatcher, h⟩ := Steps.bind_eq_ok_iff.1 h
  obtain ⟨own, -, h⟩ := Steps.bind_eq_ok_iff.1 h
  cases h
  rw [hb.matcher, PathPattern.ofSetting_everything] at hmatcher
  exact (Except.ok.inj hmatcher).symm

/-- Somewhere among the stages of such a chain stands one that refuses the request, and those before it leave the
request as it is. -/
theorem exists_refusing [Clocked σ] (hb : b.CatchAll) (hkeeps : b.KeepsRequests) {c : Chain σ}
    (h : b.build shared = .ok c) (hcovered : PathPattern.everything.covers r.path = true) :
    ∃ front stage tail, c.stages = front ++ stage :: tail ∧ (∀ other ∈ front, other.KeepsRequest) ∧
      stage.Refuses r := by
  obtain ⟨matcher, -, h⟩ := Steps.bind_eq_ok_iff.1 h
  obtain ⟨own, hown, h⟩ := Steps.bind_eq_ok_iff.1 h
  cases h
  rw [ownStages_eq] at hown
  obtain ⟨plan, hplan, rfl⟩ := Steps.map_eq_ok_iff.1 hown
  have hauthorization := Plan.authorization_mem_stages.2 (authorization_of_plan hb hplan)
  obtain ⟨entry, hentry, hstage⟩ := List.mem_map.1 hauthorization
  have hsorted : entry ∈ (plan.placed ++ b.added).mergeSort fun x y => x.1 ≤ y.1 :=
    List.mem_mergeSort.2 (List.mem_append_left b.added hentry)
  obtain ⟨front, tail, hsplit⟩ := List.append_of_mem hsorted
  refine ⟨front.map fun e => b.wrapStage e.2, b.wrapStage entry.2, tail.map fun e => b.wrapStage e.2, ?_, ?_, ?_⟩
  · simp only [hsplit, List.map_append, List.map_cons]
  · intro other hother
    obtain ⟨e, he, rfl⟩ := List.mem_map.1 hother
    have hmem : e ∈ (plan.placed ++ b.added).mergeSort fun x y => x.1 ≤ y.1 := by
      rw [hsplit]
      exact List.mem_append_left _ he
    refine hkeeps.wrapStage (fun _ _ h => h) ?_
    rcases List.mem_append.1 (List.mem_mergeSort.1 hmem) with hplanned | hadded
    · exact keepsRequest_of_plan hkeeps.repository (found_of_plan hplan) _ (List.mem_map_of_mem hplanned)
    · exact hkeeps.added e hadded
  · rw [hstage]
    exact hkeeps.wrapStage (fun note _ h => h.entered note) (Stage.refuses_authorization (grants_denyAll hcovered))

end Blueprint

namespace Guard

variable {g : Guard σ} {r : Request}

theorem chainFor?_of_last {earlier : List (Chain σ)} {c : Chain σ} (hg : g.chains = earlier ++ [c])
    (hearlier : ∀ other ∈ earlier, other.matcher.covers r.path = false) :
    g.chainFor? r.path = if c.matcher.covers r.path then some c else none := by
  have hnone : earlier.find? (·.matcher.covers r.path) = none := by simpa using hearlier
  rw [chainFor?, hg, List.find?_append, hnone, Option.none_or, List.find?_singleton]

theorem about_enter (g : Guard σ) (r : Request) (d : Desk σ) : (g.enter r d).About r :=
  ⟨rfl, nofun, nofun⟩

variable [Clocked σ]

/-- The last chain of a guard is for `/**` and denies everything. A request whose path starts with a slash, and that no
earlier chain is for, goes through it, and the handler is not started, whatever it is. The one exception is a path with
a line break: it goes through no chain, and straight to the handler. -/
theorem catchAll_shut_but_line_breaks {b : Blueprint σ} {shared : Shared σ} {c : Chain σ} (hb : b.CatchAll)
    (hkeeps : b.KeepsRequests) (hbuild : b.build shared = .ok c) (earlier : List (Chain σ))
    (hlast : g.chains = earlier ++ [c]) (hearlier : ∀ other ∈ earlier, other.matcher.covers r.path = false)
    (hslash : r.path.toList.head? = some '/') (handler : Flow σ Response) (d : Desk σ) :
    ('\n' ∉ Text.upTo '?' r.path.toList → g.chainFor? r.path = some c ∧ g.starts handler (g.enter r d) = [] ∧
      ∀ other, g.serve other r d = g.serve handler r d) ∧
    ('\n' ∈ Text.upTo '?' r.path.toList → g.chainFor? r.path = none ∧
      g.starts handler (g.enter r d) = [g.enter r d]) := by
  have hmatcher := Blueprint.matcher_of_build hb hbuild
  have hchain := chainFor?_of_last hlast hearlier
  rw [hmatcher] at hchain
  constructor
  · intro hplain
    have hcovered := (PathPattern.covers_everything_iff hslash).2 hplain
    rw [if_pos hcovered] at hchain
    obtain ⟨front, stage, tail, hstages, hfront, hstage⟩ := Blueprint.exists_refusing hb hkeeps hbuild hcovered
    have hrefused : (Pipeline.transit c.stages (g.enter r d)).Meets (fun _ => False) (fun _ _ _ => False)
        fun _ q => q.About r := by
      rw [hstages]
      exact Pipeline.meets_refused hfront hstage (g.about_enter r d)
    have hasked : (Pipeline.transit c.stages (g.enter r d)).asked handler = [] :=
      List.eq_nil_iff_forall_not_mem.2 (hrefused.of_mem_asked fun _ h => h.elim)
    refine ⟨hchain, by rw [starts, transit_enter hchain, hasked], fun other => ?_⟩
    have hsame : (Pipeline.transit c.stages (g.enter r d)).run other =
        (Pipeline.transit c.stages (g.enter r d)).run handler := (Transit.run_congr (by simp [hasked])).symm
    rw [serve_eq, serve_eq, transit_enter hchain, hsame]
  · intro hbroken
    have hcovered : ¬PathPattern.everything.covers r.path = true :=
      fun h => (PathPattern.covers_everything_iff hslash).1 h hbroken
    rw [if_neg hcovered] at hchain
    have henter : g.chainFor? (g.enter r d).exchange.request.path = none := hchain
    exact ⟨hchain, by rw [starts, transit, henter]; rfl⟩

end Guard

/-! ## A chain that is closed -/

/-- Everything is denied, and nothing else has been asked for. -/
def Blueprint.locked : Blueprint Sessions where
  rules := some [⟨"/**", [], .denyAll⟩]

/-- What it is built into. -/
def Chain.locked : Chain Sessions where
  matcher := .everything
  stages := [.autoSave (.inSession Sessions.store true false), .anonymous,
    .authorization [⟨.everything, [], .denyAll⟩] .forbidden]
  cookieName := "SESSION"

theorem Chain.build_locked : Blueprint.locked.build Shared.ofAnn = .ok .locked := by
  rw [Blueprint.build_eq ⟨rfl, rfl⟩]
  rfl

/-- A request whose path has a line break. -/
def Request.acrossLines : Request where
  method := .get
  path := "/a\nb"

namespace Guard

/-- The guard with that chain. -/
def locked : Guard Sessions :=
  ⟨[.locked]⟩

/-- A path with a line break starts with a slash like others, and the request is let through to the handler. -/
theorem locked_passed_across_lines :
    Blueprint.locked.CatchAll ∧ Blueprint.locked.Plain ∧ Blueprint.locked.build Shared.ofAnn = .ok .locked ∧
      Request.acrossLines.path.toList.head? = some '/' ∧ locked.chainFor? Request.acrossLines.path = none ∧
      locked.starts Flow.allRight (locked.enter .acrossLines newDesk) = [locked.enter .acrossLines newDesk] ∧
      (locked.serve Flow.allRight .acrossLines newDesk).1.status = 200 :=
  ⟨⟨rfl, rfl⟩, ⟨rfl, rfl⟩, Chain.build_locked, by decide, by decide +kernel, rfl, rfl⟩

/-- Any other path is refused. -/
theorem locked_shut_for_admin :
    locked.chainFor? "/admin" = some .locked ∧
      locked.starts Flow.allRight (locked.enter { method := .get, path := "/admin" } newDesk) = [] :=
  have hshut := (catchAll_shut_but_line_breaks (g := locked) (r := { method := .get, path := "/admin" })
    (⟨rfl, rfl⟩ : Blueprint.locked.CatchAll) (Blueprint.Plain.keepsRequests ⟨rfl, rfl⟩ rfl) Chain.build_locked []
    rfl nofun (by decide) Flow.allRight newDesk).1 (by decide)
  ⟨hshut.1, hshut.2.1⟩

end Guard

end Portcullis
