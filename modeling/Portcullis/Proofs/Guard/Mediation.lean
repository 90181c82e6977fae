import Portcullis.Proofs.Guard.Plan
import Portcullis.Proofs.Pipeline.Contract
import Portcullis.Proofs.Pipeline.Effects

/-!
# Complete mediation

Nothing gets past the rules. In a chain of the library's own stages the one for the rules stands last, and the stages
before it change what they like but the request; so whenever the handler is started, the rule that decides about the
request has been put to the very authentication that the handler finds.

* `Guard.chainFor?_eq_some_iff`, `Authorization.rule?_eq_some_iff`: which chain and which rule decide, by their order.
* `Plan.meets_grants`: what lies behind the stages of a plain chain is asked only where the rules let it be.
* `Guard.started_once_where_granted`: the handler is started once at most, and only where nothing stands in the way.
-/

namespace Portcullis

variable {σ : Type}

/-! ## The request on its way -/

theorem Flow.loadContext_request (r : Repository σ) (p : Passage σ) :
    (Flow.loadContext r p).2.exchange.request = p.exchange.request := by
  rw [Flow.loadContext_apply]
  split <;> rfl

variable [Clocked σ]

/-- The library's own stages pass on the very request that they have got. -/
theorem Stage.passes_request {stage : Stage σ} (h : stage.isOwn = true) (n : Nat) (p : Passage σ) :
    (stage.transit n p).Meets (fun q => q.exchange.request = p.exchange.request) (fun _ _ _ => True)
      fun _ _ => True := by
  cases stage with
  | tracing => exact ⟨rfl, fun _ _ _ => trivial⟩
  | metrics => exact ⟨rfl, fun _ _ _ => trivial⟩
  | cors source reject =>
    rw [transit]
    rcases corsTransit_cases (Cors.decide source p.exchange.request) reject _ with ⟨-, h⟩ | ⟨-, h⟩ <;> rw [h]
    · exact ⟨rfl, fun _ _ _ => trivial⟩
    · trivial
  | autoSave repository =>
    refine Transit.meets_onceTransit ⟨rfl, fun _ _ _ => trivial⟩ (Transit.meets_step ?_ fun _ _ _ => trivial)
    intro _ q hq
    have hrequest := Flow.loadContext_request repository { p with exchange := p.exchange.mark contextMark }
    rw [hq, Exchange.mark_toVisit] at hrequest
    exact ⟨hrequest, fun _ _ _ => trivial⟩
  | explicitSave repository =>
    refine Transit.meets_onceTransit ⟨rfl, fun _ _ _ => trivial⟩ (Transit.meets_step ?_ fun _ _ _ => trivial)
    intro _ q hq
    have hrequest := Flow.loadContext_request repository { p with exchange := p.exchange.mark contextMark }
    rw [hq, Exchange.mark_toVisit] at hrequest
    exact ⟨hrequest, fun _ _ _ => trivial⟩
  | formLogin settings users =>
    rw [transit]
    repeat' split
    all_goals first | trivial | exact ⟨rfl, fun _ _ _ => trivial⟩
  | httpBasic realm users =>
    rw [transit]
    split
    · exact ⟨rfl, fun _ _ _ => trivial⟩
    · trivial
    · exact ⟨rfl, fun _ _ _ => trivial⟩
  | anonymous =>
    refine ⟨?_, fun _ _ _ => trivial⟩
    dsimp only
    split <;> rfl
  | authorization rules entry =>
    rw [transit]
    repeat' split
    all_goals first | trivial | exact ⟨rfl, fun _ _ _ => trivial⟩
  | custom name code => simp [isOwn] at h
  | entered note inner => simp [isOwn] at h

/-- What the last stages ask for a request, a pipeline asks. -/
theorem Pipeline.meets_append {before : Passage σ → Prop} {r : Request} {front tail : List (Stage σ)}
    (hfront : ∀ stage ∈ front, stage.isOwn = true)
    (htail : ∀ q : Passage σ, q.exchange.request = r →
      (Pipeline.transit tail q).Meets before (fun _ _ _ => True) fun _ _ => True)
    {p : Passage σ} (hp : p.exchange.request = r) :
    (Pipeline.transit (front ++ tail) p).Meets before (fun _ _ _ => True) fun _ _ => True := by
  induction front generalizing p with
  | nil => exact htail p hp
  | cons stage rest ih =>
    rw [List.forall_mem_cons] at hfront
    exact (Stage.passes_request hfront.1 _ p).through fun q hq => ih hfront.2 (hq.trans hp)

/-! ## Plain chains -/

/-- The stages before the rules. -/
def Plan.unruled (plan : Plan σ) : Plan σ :=
  { plan with authorization := none }

omit [Clocked σ] in
theorem Plan.stages_eq_append (plan : Plan σ) :
    plan.stages = plan.unruled.stages ++ plan.authorization.toList.map fun a => .authorization a.1 a.2 := by
  simp [stages_eq, unruled]

omit [Clocked σ] in
theorem Plan.isOwn_of_mem_stages {plan : Plan σ} : ∀ stage ∈ plan.stages, stage.isOwn = true := by
  intro stage h
  rcases mem_stages.1 h with ⟨-, rfl⟩ | ⟨-, rfl⟩ | ⟨c, -, rfl⟩ | ⟨⟨_ | _, r⟩, -, rfl⟩ | ⟨f, -, rfl⟩ | ⟨h, -, rfl⟩ |
    ⟨-, rfl⟩ | ⟨a, -, rfl⟩ <;> rfl

/-- A pipeline of planned stages asks what lies ahead where the rules let the authentication pass. -/
theorem Plan.meets_grants (plan : Plan σ) (p : Passage σ) :
    (Pipeline.transit plan.stages p).Meets
      (fun q => q.exchange.request = p.exchange.request ∧ ∀ rules entry, plan.authorization = some (rules, entry) →
        Authorization.grants rules p.exchange.request q.exchange.context = true)
      (fun _ _ _ => True) fun _ _ => True := by
  rw [Plan.stages_eq_append]
  refine Pipeline.meets_append Plan.isOwn_of_mem_stages (fun q hq => ?_) rfl
  cases plan.authorization with
  | none => exact ⟨⟨hq, by simp⟩, fun _ _ _ => trivial⟩
  | some a =>
    rw [Option.toList_some, List.map_singleton, Pipeline.transit, Stage.transit, hq]
    by_cases hgrants : Authorization.grants a.1 p.exchange.request q.exchange.context = true
    · rw [if_pos hgrants]
      refine ⟨⟨hq, ?_⟩, fun _ _ _ => trivial⟩
      rintro rules entry ⟨⟩
      exact hgrants
    · rw [if_neg hgrants]
      split <;> trivial

/-! ## Guards -/

/-- It is the first of them for which the condition holds. -/
def IsFirst {α : Type} (p : α → Prop) (l : List α) (x : α) : Prop :=
  ∃ before after, l = before ++ x :: after ∧ (∀ y ∈ before, ¬p y) ∧ p x

theorem IsFirst.mem {α : Type} {p : α → Prop} {l : List α} {x : α} (h : IsFirst p l x) : x ∈ l := by
  obtain ⟨before, after, rfl, -, -⟩ := h
  exact List.mem_append_right before List.mem_cons_self

theorem find?_eq_some_iff_isFirst {α : Type} {p : α → Bool} {l : List α} {x : α} :
    l.find? p = some x ↔ IsFirst (p · = true) l x := by
  simp only [List.find?_eq_some_iff_append, IsFirst, Bool.not_eq_true', Bool.not_eq_true]
  constructor
  · rintro ⟨hx, before, after, hl, hbefore⟩
    exact ⟨before, after, hl, hbefore, hx⟩
  · rintro ⟨before, after, hl, hbefore, hx⟩
    exact ⟨hx, before, after, hl, hbefore⟩

omit [Clocked σ] in
theorem Guard.chainFor?_eq_some_iff {g : Guard σ} {path : String} {c : Chain σ} :
    g.chainFor? path = some c ↔ IsFirst (·.matcher.covers path = true) g.chains c :=
  find?_eq_some_iff_isFirst

omit [Clocked σ] in
theorem Guard.chainFor?_eq_none_iff {g : Guard σ} {path : String} :
    g.chainFor? path = none ↔ ∀ c ∈ g.chains, ¬c.matcher.covers path = true :=
  List.find?_eq_none

/-- The rule is for the request: it names its method, or no method at all, and its pattern covers the path. -/
def Rule.IsFor (rule : Rule) (r : Request) : Prop :=
  (rule.methods = [] ∨ r.method ∈ rule.methods) ∧ rule.pattern.covers r.path = true

theorem Rule.covers_iff {rule : Rule} {r : Request} : rule.covers r.method r.path = true ↔ rule.IsFor r := by
  simp [covers, IsFor]

namespace Authorization

variable {rules : List Rule} {r : Request} {rule : Rule}

theorem rule?_eq_some_iff : rule? rules r = some rule ↔ IsFirst (Rule.IsFor · r) rules rule := by
  simp only [rule?, find?_eq_some_iff_isFirst, Rule.covers_iff]

theorem rule?_eq_none_iff : rule? rules r = none ↔ ∀ rule ∈ rules, ¬rule.IsFor r := by
  simp only [rule?, List.find?_eq_none, Rule.covers_iff]

end Authorization

omit [Clocked σ] in
/-- Nothing stands in the way of a request that speaks for this authentication. -/
inductive Guard.LetsPass (g : Guard σ) (r : Request) (authentication : Option Authentication) : Prop
  /-- No chain covers its path. -/
  | uncovered (hchains : ∀ c ∈ g.chains, ¬c.matcher.covers r.path = true)
  /-- The first chain that covers its path has no rules. -/
  | unruled {c : Chain σ} (hchain : IsFirst (·.matcher.covers r.path = true) g.chains c)
    (hrules : ∀ rules entry, .authorization rules entry ∉ c.stages)
  /-- None of the chain's rules is for it. -/
  | unmatched {c : Chain σ} {rules : List Rule} {entry : EntryPoint}
    (hchain : IsFirst (·.matcher.covers r.path = true) g.chains c) (hrules : .authorization rules entry ∈ c.stages)
    (hnone : ∀ rule ∈ rules, ¬rule.IsFor r)
  /-- The first of the chain's rules that is for it grants it. -/
  | granted {c : Chain σ} {rules : List Rule} {entry : EntryPoint} {rule : Rule}
    (hchain : IsFirst (·.matcher.covers r.path = true) g.chains c) (hrules : .authorization rules entry ∈ c.stages)
    (hrule : IsFirst (Rule.IsFor · r) rules rule) (hgranted : rule.access.granted authentication = true)

omit [Clocked σ] in
theorem Chain.IsPlain.exists_plan {c : Chain σ} (h : c.IsPlain) : ∃ plan : Plan σ, c.stages = plan.stages := by
  obtain ⟨b, shared, hb, hbuild⟩ := h
  obtain ⟨plan, -, hstages, -⟩ := Blueprint.exists_plan hb hbuild
  exact ⟨plan, hstages⟩

theorem Guard.asks_once {g : Guard σ} (hg : ∀ c ∈ g.chains, c.IsPlain) (p : Passage σ) : (g.transit p).Once := by
  rw [transit]
  cases hc : g.chainFor? p.exchange.request.path with
  | none => exact fun outcome q => ⟨outcome, q, rfl⟩
  | some c =>
    obtain ⟨plan, hstages⟩ := (hg c (List.mem_of_find?_eq_some hc)).exists_plan
    simp only [hstages]
    exact Pipeline.asks_once Plan.isOwn_of_mem_stages p

theorem Guard.meets_letsPass {g : Guard σ} (hg : ∀ c ∈ g.chains, c.IsPlain) (p : Passage σ) :
    (g.transit p).Meets (fun q => q.exchange.request = p.exchange.request ∧
      g.LetsPass p.exchange.request q.exchange.context.authentication) (fun _ _ _ => True) fun _ _ => True := by
  rw [transit]
  cases hc : g.chainFor? p.exchange.request.path with
  | none => exact ⟨⟨rfl, .uncovered (Guard.chainFor?_eq_none_iff.1 hc)⟩, fun _ _ _ => trivial⟩
  | some c =>
    have hchain := Guard.chainFor?_eq_some_iff.1 hc
    obtain ⟨plan, hstages⟩ := (hg c (List.mem_of_find?_eq_some hc)).exists_plan
    simp only [hstages]
    refine (plan.meets_grants p).mono ?_ (fun _ _ _ _ h => h) fun _ _ h => h
    rintro q ⟨hrequest, hgrants⟩
    refine ⟨hrequest, ?_⟩
    rcases hrules : plan.authorization with _ | ⟨rules, entry⟩
    · refine .unruled hchain fun rules entry h => ?_
      rw [hstages, Plan.authorization_mem_stages, hrules] at h
      cases h
    · have hmem : .authorization rules entry ∈ c.stages := by rw [hstages, Plan.authorization_mem_stages, hrules]
      have hrule := hgrants rules entry hrules
      rw [Authorization.grants] at hrule
      cases hfirst : Authorization.rule? rules p.exchange.request with
      | none => exact .unmatched hchain hmem (Authorization.rule?_eq_none_iff.1 hfirst)
      | some rule =>
        rw [hfirst] at hrule
        exact .granted hchain hmem (Authorization.rule?_eq_some_iff.1 hfirst) hrule

/-- A guard of plain chains starts the handler once at most, with the request as it came, and only where nothing stands
in the way of the authentication that the handler finds. What the handler would do elsewhere makes no difference. -/
theorem Guard.started_once_where_granted {g : Guard σ} (hg : ∀ c ∈ g.chains, c.IsPlain) (handler : Flow σ Response)
    (p : Passage σ) :
    (g.starts handler p = [] ∧ ∀ other, g.execute other p = g.execute handler p) ∨
      ∃ q, g.starts handler p = [q] ∧ (∀ other, handler q = other q → g.execute other p = g.execute handler p) ∧
        q.exchange.request = p.exchange.request ∧
        g.LetsPass p.exchange.request q.exchange.context.authentication := by
  have hsame (other : Flow σ Response) (h : ∀ q ∈ g.starts handler p, handler q = other q) :
      g.execute other p = g.execute handler p := by
    rw [← run_transit, ← run_transit, Transit.run_congr h]
  have hstarted : ∀ q ∈ g.starts handler p, q.exchange.request = p.exchange.request ∧
      g.LetsPass p.exchange.request q.exchange.context.authentication :=
    (Guard.meets_letsPass hg p).of_mem_asked fun _ _ => trivial
  rcases (Guard.asks_once hg p).asked with h | ⟨q, h⟩
  · exact .inl ⟨h, fun other => hsame other (by simp [starts, h])⟩
  · refine .inr ⟨q, h, fun other hq => hsame other (by simp [starts, h, hq]), ?_⟩
    exact hstarted q (by simp [starts, h])

/-- A chain for strangers: whoever is logged in is refused. -/
def Chain.strangersOnly : Chain Sessions where
  matcher := ⟨"/**", [.anyDepth]⟩
  stages := [.autoSave (.inSession Sessions.store true false), .anonymous,
    .authorization [⟨⟨"/**", [.anyDepth]⟩, [], .anonymous⟩] .forbidden]
  cookieName := "SESSION"

theorem Chain.isPlain_strangersOnly : Chain.strangersOnly.IsPlain := by
  refine ⟨{ rules := some [⟨"/**", [], .anonymous⟩] }, { store := Sessions.store }, ⟨rfl, rfl⟩, ?_⟩
  rw [Blueprint.build_eq ⟨rfl, rfl⟩]
  rfl

/-- A stranger is let in: the rule that stands in the way of all others has been put to what the handler finds. -/
theorem Guard.started_once_for_stranger : Chain.strangersOnly.IsPlain ∧
    ∃ q, Guard.starts ⟨[.strangersOnly]⟩ (pure ⟨200, [], .null⟩)
        (.arriving { method := .get, path := "/" }) = [q] ∧
      Access.anonymous.granted q.exchange.context.authentication = true := by
  refine ⟨Chain.isPlain_strangersOnly, ?_⟩
  rcases Guard.started_once_where_granted (List.forall_mem_singleton.2 Chain.isPlain_strangersOnly)
      (pure ⟨200, [], .null⟩) (.arriving { method := .get, path := "/" }) with
    ⟨h, -⟩ | ⟨q, h, -, -, hpass⟩
  · cases h
  refine ⟨q, h, ?_⟩
  have hcovers : (⟨"/**", [.anyDepth]⟩ : PathPattern).covers "/" = true := by decide
  have hrules {rules : List Rule} {entry : EntryPoint} (h : .authorization rules entry ∈ Chain.strangersOnly.stages) :
      rules = [⟨⟨"/**", [.anyDepth]⟩, [], .anonymous⟩] := by
    have hsame : rules = [⟨⟨"/**", [.anyDepth]⟩, [], .anonymous⟩] ∧ entry = .forbidden := by
      simpa [Chain.strangersOnly] using h
    exact hsame.1
  cases hpass with
  | uncovered hchains => exact absurd hcovers (hchains _ (List.mem_singleton_self _))
  | unruled hchain hnone =>
    obtain rfl := List.mem_singleton.1 hchain.mem
    exact absurd (by simp [Chain.strangersOnly]) (hnone [⟨⟨"/**", [.anyDepth]⟩, [], .anonymous⟩] .forbidden)
  | unmatched hchain hmem hnone =>
    obtain rfl := List.mem_singleton.1 hchain.mem
    obtain rfl := hrules hmem
    exact absurd ⟨.inl rfl, hcovers⟩ (hnone _ (List.mem_singleton_self _))
  | granted hchain hmem hrule hgranted =>
    obtain rfl := List.mem_singleton.1 hchain.mem
    obtain rfl := hrules hmem
    obtain rfl := List.mem_singleton.1 hrule.mem
    exact hgranted

end Portcullis
