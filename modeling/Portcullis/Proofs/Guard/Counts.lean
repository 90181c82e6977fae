import Portcullis.Proofs.Guard.Layers

/-!
# What is counted

Each request that goes through the stage that counts is counted once, by what comes of it behind that stage
(`Chain.Counting`). So the counts after any history add up what has come of its requests (`Guard.counted_after`).

* `Metrics.Counted`: what the counts say about outcomes.
* `Stage.keeps_counts`: no other stage touches the counts.
* `Blueprint.counting_of_build`: where nothing of the host stands in front, every request is counted.
-/

namespace Portcullis

variable {σ : Type}

/-! ## Outcomes -/

namespace Metrics

/-- Is there no answer? -/
def failed (outcome : Except Failure Response) : Bool :=
  outcome.toOption.isNone

/-- Is the outcome an answer of this status? -/
def hasStatus (status : Nat) (outcome : Except Failure Response) : Bool :=
  outcome.toOption.any (·.status = status)

/-- Is the outcome a redirect to a page that shows an error? -/
def showsError (outcome : Except Failure Response) : Bool :=
  outcome.toOption.any isErrorRedirect

/-- Between two states of the counts, these outcomes have been counted, each for what it is. -/
structure Counted (before : Metrics) (outcomes : List (Except Failure Response)) (after : Metrics) : Prop where
  requests : after.requests = before.requests.advance outcomes.length
  errors : after.errors = before.errors.advance (outcomes.countP failed)
  denied : after.denied = before.denied.advance (outcomes.countP (hasStatus 403))
  authFailures : after.authFailures =
    before.authFailures.advance (outcomes.countP (hasStatus 401) + outcomes.countP showsError)

variable {before after : Metrics} {outcomes : List (Except Failure Response)}

theorem counted_nil (m : Metrics) : m.Counted [] m :=
  ⟨m.requests.advance_zero.symm, m.errors.advance_zero.symm, m.denied.advance_zero.symm,
    m.authFailures.advance_zero.symm⟩

/-- One more outcome is counted. What is counted of an answer goes by its status; only one of the kinds applies. -/
theorem Counted.observe (h : before.Counted outcomes after) (outcome : Except Failure Response) (latency : Nat) :
    before.Counted (outcome :: outcomes) (after.observe outcome.toOption latency) := by
  obtain ⟨hrequests, herrors, hdenied, hauth⟩ := h
  rcases outcome with e | r
  · have herror : failed (.error e) = true := rfl
    have hstatus (status : Nat) : hasStatus status (.error e) = false := rfl
    have hshows : showsError (.error e) = false := rfl
    refine ⟨?_, ?_, ?_, ?_⟩ <;> simp [Metrics.observe, Except.toOption, *]
  have herror : failed (.ok r) = false := rfl
  have hstatus (status : Nat) : hasStatus status (.ok r) = decide (r.status = status) := rfl
  have hshows : showsError (.ok r) = isErrorRedirect r := rfl
  by_cases h302 : r.status = 302
  · cases hredirect : isErrorRedirect r <;> refine ⟨?_, ?_, ?_, ?_⟩ <;>
      simp [Metrics.observe, Except.toOption, *, Nat.add_assoc]
  · have hredirect : isErrorRedirect r = false := by simp [isErrorRedirect, h302]
    by_cases h401 : r.status = 401 <;> by_cases h403 : r.status = 403 <;> refine ⟨?_, ?_, ?_, ?_⟩ <;>
      simp [Metrics.observe, Except.toOption, *, Nat.add_assoc, Nat.add_comm 1]

end Metrics

/-! ## Stages that count nothing -/

/-- The stage counts nothing, nor does one that it holds. -/
def Stage.countsNothing : Stage σ → Bool
  | .metrics => false
  | .entered _ inner => inner.countsNothing
  | _ => true

/-- The handler leaves the counts alone. -/
def Flow.KeepsCounts (handler : Flow σ Response) : Prop :=
  ∀ p, (handler p).2.metrics = p.metrics

section Keeping

variable {m : Metrics} {p : Passage σ}

theorem Flow.counts_loadContext (r : Repository σ) (p : Passage σ) : (loadContext r p).2.metrics = p.metrics := by
  rw [loadContext_apply]
  split <;> rfl

theorem Flow.counts_saveContext (p : Passage σ) : (saveContext p).2.metrics = p.metrics :=
  @keeps_saveContext _ (fun q => q.metrics = p.metrics) p rfl (fun _ _ => rfl) fun _ _ h => h

theorem Flow.counts_rotateSession (p : Passage σ) : (rotateSession p).2.metrics = p.metrics :=
  @keeps_rotateSession _ (fun q => q.metrics = p.metrics) p rfl fun _ _ => rfl

theorem FormLogin.counts_succeed (f : FormLogin) (a : Authentication) (p : Passage σ) :
    (f.succeed a p).2.metrics = p.metrics := by
  rw [succeed_snd]
  split
  · rw [Flow.counts_saveContext, Flow.counts_rotateSession]
  · exact Flow.counts_rotateSession p

/-- Code of the host has no way to the counts. -/
theorem Program.keeps_counts (code : Program σ) (n : Nat) (hp : p.metrics = m) :
    (code.transit n p).Keeps fun q => q.metrics = m := by
  induction code generalizing p with
  | answer response => exact hp
  | fail failure => exact hp
  | look next ih => exact ih _ hp
  | ahead next ih => exact ih _ hp
  | touch f next ih => exact ih _ hp
  | authenticate a next ih => exact ih hp
  | clear next ih => exact ih hp
  | save next ih =>
    have hsaved := (Flow.counts_saveContext p).trans hp
    exact Transit.meets_step (fun saved q hq => ih saved (by rwa [hq] at hsaved)) fun e q hq => by rwa [hq] at hsaved
  | rotate next ih =>
    have hrotated := (Flow.counts_rotateSession p).trans hp
    exact Transit.meets_step (fun moved q hq => ih moved (by rwa [hq] at hrotated))
      fun e q hq => by rwa [hq] at hrotated
  | bind id next ih => exact ih hp
  | queue name value next ih => exact ih hp
  | mark name next ih => exact ih _ hp
  | pass next ih => exact ⟨hp, fun outcome q hq => ih outcome hq⟩

variable [Clocked σ]

theorem Stage.keeps_counts {stage : Stage σ} (h : stage.countsNothing = true) :
    stage.Keeps fun q => q.metrics = m := by
  induction stage with
  | tracing => exact keeps_tracing
  | metrics => cases h
  | cors source reject => exact keeps_cors fun _ _ hp => hp
  | autoSave repository =>
    exact keeps_autoSave (fun p hp => (Flow.counts_loadContext repository _).trans hp) (fun _ hp => hp) fun _ _ hp => hp
  | explicitSave repository =>
    exact keeps_explicitSave (fun p hp => (Flow.counts_loadContext repository _).trans hp) fun _ _ _ _ hp => hp
  | formLogin settings users => exact keeps_formLogin fun p a hp _ _ => (settings.counts_succeed a p).trans hp
  | httpBasic realm users => exact keeps_httpBasic fun _ _ hp _ => hp
  | anonymous => exact keeps_anonymous fun _ hp _ => hp
  | authorization rules entry => exact keeps_authorization
  | custom name code => exact fun n p hp => code.keeps_counts n hp
  | entered note inner ih => exact fun n p hp => ih h n _ hp

end Keeping

/-! ## Chains that count every request -/

/-- The stages behind the one that counts. -/
def Plan.uncounted (plan : Plan σ) : Plan σ :=
  { plan with tracing := false, metrics := false }

namespace Plan

variable {plan : Plan σ}

theorem places_uncounted : ∀ entry ∈ plan.uncounted.placed, Blueprint.metricsPlace ≤ entry.1 := by
  intro entry hentry
  simp only [placed, outer, inner, List.mem_append, List.mem_map, List.mem_ite_nil_right, List.mem_singleton]
    at hentry
  rcases hentry with (⟨h, -⟩ | ⟨h, -⟩ | ⟨c, -, rfl⟩) | ⟨c, -, rfl⟩ | ⟨f, -, rfl⟩ | ⟨basic, -, rfl⟩ | ⟨-, rfl⟩ |
    ⟨a, -, rfl⟩
  case inl.inl => cases h
  case inl.inr.inl => cases h
  all_goals exact of_decide_eq_true rfl

theorem countsNothing_uncounted : ∀ entry ∈ plan.uncounted.placed, entry.2.countsNothing = true := by
  intro entry hentry
  rcases mem_stages.1 (List.mem_map_of_mem hentry) with ⟨h, -⟩ | ⟨h, -⟩ | ⟨c, -, h⟩ | ⟨⟨_ | _, r⟩, -, h⟩ | ⟨f, -, h⟩ |
    ⟨basic, -, h⟩ | ⟨-, h⟩ | ⟨a, -, h⟩
  case inl => cases h
  case inr.inl => cases h
  all_goals
    rw [h]
    rfl

/-- Only tracing stands in front of the stage that counts, if the host lets none of its own stand there. -/
theorem sort_counted (hmetrics : plan.metrics = true) {added : List (Int × Stage σ)}
    (hadded : ∀ entry ∈ added, Blueprint.metricsPlace ≤ entry.1) :
    ((plan.placed ++ added).mergeSort fun x y => x.1 ≤ y.1) =
      (if plan.tracing then [(Blueprint.tracingPlace, .tracing)] else []) ++ (Blueprint.metricsPlace, .metrics) ::
        (plan.uncounted.placed ++ added).mergeSort fun x y => x.1 ≤ y.1 := by
  have hplaced : plan.placed = ((if plan.tracing then [(Blueprint.tracingPlace, .tracing)] else []) ++
      [(Blueprint.metricsPlace, .metrics)]) ++ plan.uncounted.placed := by
    simp only [placed, outer, uncounted, hmetrics, if_true, List.append_assoc]
    rfl
  have hback : ∀ entry ∈ plan.uncounted.placed ++ added, Blueprint.metricsPlace ≤ entry.1 :=
    List.forall_mem_append.2 ⟨places_uncounted, hadded⟩
  rw [hplaced, List.append_assoc, mergeSort_append places_trans places_total]
  · simp
  · cases plan.tracing <;> simp [Blueprint.tracingPlace, Blueprint.metricsPlace]
  · intro x hx y hy
    have hle : x.1 ≤ Blueprint.metricsPlace := by
      cases htracing : plan.tracing <;> simp only [htracing] at hx <;> simp at hx
      · exact Int.le_of_eq (congrArg Prod.fst hx)
      · rcases hx with rfl | rfl <;> simp [Blueprint.tracingPlace, Blueprint.metricsPlace]
    simpa using Int.le_trans hle (hback y hy)

end Plan

section Chains

variable [Clocked σ]

/-- The chain counts every request once, by what comes of it. -/
def Chain.Counting (c : Chain σ) : Prop :=
  ∀ handler : Flow σ Response, handler.KeepsCounts → ∀ p, ∃ latency, (Pipeline.run handler c.stages p).2.metrics =
    p.metrics.observe (Pipeline.run handler c.stages p).1.toOption latency

theorem Pipeline.counts_run {stages : List (Stage σ)} (hstages : ∀ stage ∈ stages, stage.countsNothing = true)
    {handler : Flow σ Response} (hhandler : handler.KeepsCounts) (p : Passage σ) :
    (Pipeline.run handler stages p).2.metrics = p.metrics := by
  have hkeeps : (Pipeline.transit stages p).Keeps fun q => q.metrics = p.metrics :=
    Pipeline.keeps (fun stage hstage => Stage.keeps_counts (hstages stage hstage)) rfl
  rw [← Pipeline.run_transit]
  exact hkeeps.run fun q hq => (hhandler q).trans hq

namespace Blueprint

variable {b : Blueprint σ} {shared : Shared σ}

/-- There is a stage that counts, nothing of the host stands in front of it or counts as well, and all that wrappers do
is to take note of what enters a stage. -/
structure CountsRequests (b : Blueprint σ) : Prop where
  metrics : b.metrics = true
  added : ∀ entry ∈ b.added, metricsPlace ≤ entry.1 ∧ entry.2.countsNothing = true
  wrappers : ∀ wrapper ∈ b.wrappers, ∃ note, wrapper = .entered note

omit [Clocked σ] in
theorem metrics_of_plan {plan : Plan σ} (h : b.plan shared = .ok plan) : plan.metrics = b.metrics := by
  obtain ⟨cors, -, h⟩ := Steps.bind_eq_ok_iff.1 h
  obtain ⟨form, -, h⟩ := Steps.bind_eq_ok_iff.1 h
  obtain ⟨basic, -, h⟩ := Steps.bind_eq_ok_iff.1 h
  obtain ⟨rules, -, h⟩ := Steps.bind_eq_ok_iff.1 h
  cases h
  rfl

/-- A chain of such a blueprint counts every request. -/
theorem counting_of_build (hb : b.CountsRequests) {c : Chain σ} (h : b.build shared = .ok c) : c.Counting := by
  obtain ⟨matcher, plan, -, hplan, rfl⟩ := exists_plan_sorted h
  have hsorted := plan.sort_counted ((metrics_of_plan hplan).trans hb.metrics) fun e he => (hb.added e he).1
  obtain ⟨note, -, hnote⟩ := wrapStage_entered (P := fun _ => True) trivial (fun _ _ _ _ => trivial)
    fun wrapper hwrapper => (hb.wrappers wrapper hwrapper).imp fun _ h => ⟨trivial, h⟩
  intro handler hhandler
  generalize htail : ((plan.uncounted.placed ++ b.added).mergeSort fun x y => x.1 ≤ y.1).map
    (fun entry => b.wrapStage entry.2) = tail
  have hnothing : ∀ stage ∈ tail, stage.countsNothing = true := by
    rw [← htail]
    intro stage hstage
    obtain ⟨entry, hentry, rfl⟩ := List.mem_map.1 hstage
    refine wrapStage_of (P := fun stage => stage.countsNothing = true) (fun wrapper hwrapper stage h => ?_) ?_
    · obtain ⟨note, rfl⟩ := hb.wrappers wrapper hwrapper
      exact h
    · exact (List.mem_append.1 (List.mem_mergeSort.1 hentry)).elim (Plan.countsNothing_uncounted entry)
        fun hadded => (hb.added entry hadded).2
  have hmetrics (p : Passage σ) : ∃ latency,
      (Pipeline.run handler (b.wrapStage .metrics :: tail) p).2.metrics =
        p.metrics.observe (Pipeline.run handler (b.wrapStage .metrics :: tail) p).1.toOption latency := by
    rw [Pipeline.run, hnote, ← Stage.run_transit]
    exact ⟨_, congrArg (Metrics.observe · _ _) (Pipeline.counts_run hnothing hhandler _)⟩
  intro p
  simp only [sorted, hsorted, List.map_append, List.map_cons, htail]
  cases plan.tracing with
  | false => exact hmetrics p
  | true =>
    obtain ⟨latency, hlatency⟩ := hmetrics { p with backend := note p.backend }
    refine ⟨latency, ?_⟩
    rw [if_pos rfl, List.map_singleton, List.singleton_append, Pipeline.run, hnote]
    exact hlatency

end Blueprint

end Chains

/-! ## Histories -/

namespace Guard

variable [Clocked σ]

/-- The requests among the events, and what has come of them, the latest first. -/
def outcomes (g : Guard σ) (d : Desk σ) : List (Event σ) → List (Request × Except Failure Response)
  | [] => []
  | .request r handler :: past => (r, (g.runRequest handler r (g.after d past)).1) :: g.outcomes d past
  | .meanwhile _ :: past => g.outcomes d past

variable {g : Guard σ} {c : Chain σ} {d : Desk σ} {r : Request}

/-- The request goes through the chain, and its handler leaves the counts alone. -/
def Event.Through (g : Guard σ) (c : Chain σ) : Event σ → Prop
  | .request r handler => g.chainFor? r.path = some c ∧ handler.KeepsCounts
  | .meanwhile _ => True

/-- What has come of the requests is what has been counted. -/
theorem counted_after (hc : c.Counting) {history : List (Event σ)} (hthrough : ∀ event ∈ history, event.Through g c) :
    d.metrics.Counted ((g.outcomes d history).map (·.2)) (g.after d history).metrics := by
  induction history with
  | nil => exact Metrics.counted_nil _
  | cons event past ih =>
    rw [List.forall_mem_cons] at hthrough
    have hpast := ih hthrough.2
    cases event with
    | meanwhile f => exact hpast
    | request r handler =>
      obtain ⟨hchain, hhandler⟩ := hthrough.1
      obtain ⟨latency, hlatency⟩ := hc handler hhandler (g.enter r (g.after d past))
      rw [outcomes, after, List.map_cons, runRequest_eq, stagesFor_eq hchain, hlatency]
      exact hpast.observe _ latency

end Guard

end Portcullis
