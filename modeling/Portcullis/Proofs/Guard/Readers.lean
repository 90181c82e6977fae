import Portcullis.Proofs.Cors.Verdict
import Portcullis.Proofs.Guard.Layers
import Portcullis.Proofs.Pipeline.Readers

/-!
# Answers that other origins may read

Through a plain chain with a stage for other origins, no answer names an origin that the policies do not grant it to,
whatever the rest of the chain and the handler have made of the request; and preflights that the policies decide about
get no further than that stage (`Guard.readable_where_granted`).
-/

namespace Portcullis

open Cors (Source decide)

variable {σ : Type} {source : Source} {r : Request}

/-- The request has come back, and an answer names an origin only where the policies grant it. -/
structure Passage.Cleared (source : Source) (r : Request) (outcome : Except Failure Response) (q : Passage σ) :
    Prop where
  answer : ∀ response, outcome = .ok response → response.headers.Closed ∨
    ∃ answer, source.Grants r answer ∧ response.headers.getAll "access-control-allow-origin" = [answer]
  pending : q.exchange.pending.Closed

/-- The stage for other origins adds what has been decided. -/
theorem Passage.ClosedBack.relay {outcome : Except Failure Response} {q : Passage σ} (h : ClosedBack outcome q) :
    Cleared source r (Stage.relay (decide source r) outcome) q := by
  refine ⟨fun response hresponse => ?_, h.pending⟩
  rcases hdecision : decide source r with _ | _ | ⟨headers, _ | _⟩ | ⟨reason, preflight⟩ <;> rw [hdecision] at hresponse
  case allow.false =>
    rcases outcome with e | closed
    · cases hresponse
    · obtain ⟨answer, hgrants, hanswer⟩ := Cors.grants_of_decide hdecision
      obtain rfl : Stage.mergeHeaders closed headers = response := Except.ok.inj hresponse
      have hvary : Text.sameIgnoringCase "access-control-allow-origin" "vary" = false := by
        rw [Text.sameIgnoringCase_comm]
        exact Headers.ownNames_ne _ (by simp [Headers.ownNames])
      exact .inr ⟨answer, hgrants, by rw [Stage.getAll_mergeHeaders hvary, hanswer]; rfl⟩
  all_goals exact .inl (h.answer response hresponse)

/-- An answer of the stage for other origins itself. -/
theorem Passage.Closed.corsAnswered {p : Passage σ} (h : p.Closed) :
    Cleared source r (.ok (Stage.corsAnswer (decide source r))) p := by
  refine ⟨?_, h.pending⟩
  rintro response ⟨⟩
  cases hdecision : decide source r
  case allow headers preflight =>
    obtain ⟨answer, hgrants, hanswer⟩ := Cors.grants_of_decide hdecision
    exact .inr ⟨answer, hgrants, hanswer⟩
  all_goals exact .inl (Response.json_closed _ _)

namespace Plan

variable [Clocked σ] {plan : Plan σ} {reject : RejectPolicy} {p : Passage σ}

/-- The stages after the one for other origins name no origins. -/
theorem meets_closed (hcontext : ∀ c, plan.context = some c → c.2.Closed) (hp : p.Closed) :
    (Pipeline.transit (plan.context.toList.map contextStage ++ plan.innerStages) p).Meets Passage.Closed
      (fun _ outcome q => Passage.ClosedBack outcome q) Passage.ClosedBack := by
  refine Pipeline.honours (fun stage hstage => ?_) hp
  simp only [innerStages, lastStages, List.mem_append, List.mem_map, Option.mem_toList, List.mem_ite_nil_right,
    List.mem_singleton] at hstage
  rcases hstage with ⟨c, hc, rfl⟩ | ⟨f, -, rfl⟩ | ⟨h, -, rfl⟩ | ⟨-, rfl⟩ | ⟨a, -, rfl⟩
  · rcases c with ⟨_ | _, repository⟩
    · exact Stage.closed_autoSave (hcontext _ hc)
    · exact Stage.closed_explicitSave (hcontext _ hc)
  · exact Stage.closed_formLogin f.1 f.2
  · exact Stage.closed_httpBasic h.1 h.2
  · exact Stage.closed_anonymous
  · exact Stage.closed_authorization a.1 a.2

/-- All stages together name an origin only where the policies grant it. -/
theorem meets_cleared (hcontext : ∀ c, plan.context = some c → c.2.Closed) (hcors : plan.cors = some (source, reject))
    (hp : p.Closed) : (Pipeline.transit plan.stages p).Meets Passage.Closed
      (fun _ outcome q => Passage.ClosedBack outcome q) (Passage.Cleared source p.exchange.request) := by
  have hnoted (decision : Option Cors.Decision) : Passage.Closed { p with exchange := { p.exchange with decision } } :=
    ⟨hp.pending, hp.hook, hp.repository⟩
  rw [stages_eq_layers]
  refine plan.meets_outer (fun _ _ _ h => ⟨h.answer, h.pending⟩) (fun _ decision => ?_) fun c hc _ decision => ?_
  · refine (meets_closed hcontext (hnoted decision)).mono (fun _ h => h) (fun _ _ _ _ h => h) fun outcome q h => ?_
    rw [relay, hcors]
    exact h.relay
  · rw [hcors] at hc
    cases hc
    exact (hnoted decision).corsAnswered

/-- A preflight that is allowed or denied is answered by the stage for other origins. -/
theorem meets_stopped (hcors : plan.cors = some (source, reject))
    (hpreflight : (decide source p.exchange.request).preflight? = some true) :
    (Pipeline.transit plan.stages p).Meets (fun _ => False) (fun _ _ _ => False) fun _ q => q.backend = p.backend := by
  have hstopped : Stage.corsPasses (decide source p.exchange.request) reject = false := by
    cases hdecision : decide source p.exchange.request <;> rw [hdecision] at hpreflight <;> cases hpreflight <;> rfl
  rw [stages_eq_layers]
  refine plan.meets_outer (fun _ _ _ h => h) (fun hcross _ => ?_) fun _ _ _ _ => rfl
  have hpasses := hcross _ hcors
  rw [hstopped] at hpasses
  cases hpasses

end Plan

theorem Repository.Over.closed {store : Store σ} {repository : Repository σ} (h : repository.Over store) :
    repository.Closed := by
  cases h with
  | inSession allow always => exact Repository.closed_inSession store allow always
  | none => exact Repository.closed_none

theorem Blueprint.Found.closed_context {b : Blueprint σ} {shared : Shared σ} {plan : Plan σ} (h : b.Found shared plan)
    (hrepository : ∀ repository, b.context.repository = some repository → repository.Closed) :
    ∀ c, plan.context = some c → c.2.Closed := by
  intro c hc
  rw [h.context] at hc
  split at hc
  · cases hc
  · cases hc
    cases hnamed : b.context.repository with
    | some repository => exact hrepository _ hnamed
    | none => exact (Repository.over_default b.session.policy shared.store).closed

namespace Guard

variable [Clocked σ] {g : Guard σ} {handler : Flow σ Response}

omit [Clocked σ] in
theorem closed_enter (g : Guard σ) (r : Request) (d : Desk σ) : (g.enter r d).Closed :=
  ⟨rfl, nofun, nofun⟩

/-- What is served through a plain chain with a stage for other origins names an origin only where the policies grant
it. A preflight that they allow or deny changes nothing behind the pipeline and does not start the handler. The handler
names no origins itself, and neither does the repository, if the host has brought one. -/
theorem readable_where_granted {b : Blueprint σ} {shared : Shared σ} {c : Chain σ} (hb : b.Plain)
    (hrepository : ∀ repository, b.context.repository = some repository → repository.Closed)
    (hbuild : b.build shared = .ok c) (hchain : g.chainFor? r.path = some c) {reject : RejectPolicy}
    (hcors : .cors source reject ∈ c.stages) (hhandler : handler.Closed) (d : Desk σ) :
    ((g.serve handler r d).1.headers.Closed ∨ ∃ answer, source.Grants r answer ∧
      (g.serve handler r d).1.headers.getAll "access-control-allow-origin" = [answer]) ∧
    (r.isPreflight = true → (decide source r).isAllowed = true ∨ (decide source r).isDenied = true →
      (g.serve handler r d).2.backend = d.backend ∧ g.starts handler (g.enter r d) = [] ∧
        ∀ other, g.serve other r d = g.serve handler r d) := by
  obtain ⟨plan, hplan, hstages, -⟩ := Blueprint.exists_plan hb hbuild
  have hplanned : plan.cors = some (source, reject) := by
    rwa [hstages, Plan.cors_mem_stages] at hcors
  simp only [serve_eq, starts, transit_enter hchain, hstages]
  constructor
  · have hcontext := (Blueprint.found_of_plan hplan).closed_context hrepository
    have hcleared := (Plan.meets_cleared hcontext hplanned (g.closed_enter r d)).run hhandler
    revert hcleared
    generalize (Pipeline.transit plan.stages (g.enter r d)).run handler = result
    intro hcleared
    have hfinish (response : Response) : (result.2.exchange.finish response).headers.getAll
        "access-control-allow-origin" = response.headers.getAll "access-control-allow-origin" := by
      rw [Exchange.getAll_finish, hcleared.pending, List.append_nil]
    simp only [Headers.Closed, hfinish]
    rcases houtcome : result.1 with e | response
    · exact .inl (Response.json_closed _ _)
    · exact hcleared.answer response houtcome
  · intro hpreflight hdecided
    have hstopped := Plan.meets_stopped hplanned (p := g.enter r d) (Cors.preflight?_decide hpreflight hdecided)
    have hasked : (Pipeline.transit plan.stages (g.enter r d)).asked handler = [] :=
      List.eq_nil_iff_forall_not_mem.2 (hstopped.of_mem_asked fun _ h => h.elim)
    refine ⟨hstopped.run fun _ h => h.elim, hasked, fun other => ?_⟩
    have hsame : (Pipeline.transit plan.stages (g.enter r d)).run handler =
        (Pipeline.transit plan.stages (g.enter r d)).run other := Transit.run_congr (by simp [hasked])
    rw [hsame]

end Guard

/-! ## A chain that everybody may read through -/

/-- The stage for other origins, and nothing else but what every chain has. -/
def Chain.openToAll : Chain Sessions where
  matcher := ⟨"/**", [.anyDepth]⟩
  stages := [.cors Cors.openSource .passThrough, .autoSave (.inSession Sessions.store true false), .anonymous]
  cookieName := "SESSION"

theorem Chain.build_openToAll :
    Blueprint.build { cors := some { source := some Cors.openSource } } Shared.ofAnn = .ok Chain.openToAll := by
  rw [Blueprint.build_eq ⟨rfl, rfl⟩]
  rfl

theorem Flow.closed_allRight : Flow.allRight.Closed :=
  fun _ hp => hp.answered rfl

namespace Guard

/-- The preflight of a page is allowed, and only the stage for other origins sees it. -/
theorem foreignPreflight_answered : Cors.foreignPreflight.isPreflight = true ∧
    (decide Cors.openSource Cors.foreignPreflight).isAllowed = true ∧
    (serve ⟨[.openToAll]⟩ Flow.allRight Cors.foreignPreflight newDesk).2.backend = newDesk.backend := by
  have hhost : ∀ repository, ({} : ContextSettings Sessions).repository = some repository → repository.Closed := by simp
  obtain ⟨-, hstopped⟩ := readable_where_granted (g := ⟨[.openToAll]⟩) ⟨rfl, rfl⟩ hhost Chain.build_openToAll
    (rfl : chainFor? _ Cors.foreignPreflight.path = _) List.mem_cons_self Flow.closed_allRight newDesk
  refine ⟨Cors.isPreflight_foreignPreflight, Cors.isAllowed_foreignPreflight, ?_⟩
  exact (hstopped Cors.isPreflight_foreignPreflight (.inl Cors.isAllowed_foreignPreflight)).1

end Guard

end Portcullis
