import Portcullis.Proofs.Guard.Rotation
import Portcullis.Proofs.Pipeline.Alongside

/-!
# The two ways of saving

Two chains are asked for in the same way, but that the one saves the context after each request and the other leaves
saving to form login (`Chain.Twins`). Where nobody but form login changes the context it makes no difference which of
them serves: guards of such chains give the same answers and keep the same sessions (`Guard.save_modes_agree`), as far
as an empty context in a session is the same as none.

Only the first chain writes to the store after each request. What it writes there is what it has found there
(`Passage.Inside`), unless form login has changed it, and then the second chain has written the same.
-/

namespace Portcullis

variable {σ τ : Type}

/-! ## What has been asked for -/

/-- At this place the context has been loaded, and there is a form login ahead. -/
def Blueprint.Between (b : Blueprint σ) (place : Int) : Prop :=
  b.context.disabled = false ∧ b.formLogin.isSome = true ∧ contextPlace ≤ place ∧ place < formLoginPlace

section Twins

variable (empties : Prop) (view : σ → Sessions) (other : σ → τ)

/-- The chain saves after each request, in sessions that it opens, if at all, when there is something to keep; and
nobody but form login changes the context or the session. A stage of the host between loading the context and form login
hands on what it gets from ahead. -/
structure Blueprint.SavesLogins (b : Blueprint σ) : Prop where
  autoSave : b.context.explicitSave = false
  repository : b.context.repository = none
  policy : b.session.policy = .ifRequired ∨ b.session.policy = .never
  httpBasic : b.httpBasic = none
  added : ∀ entry ∈ b.added, entry.2.LeavesAlone empties view other (b.Between entry.1)
  wrappers : ∀ wrapper ∈ b.wrappers, ∃ note, LeavesSessions empties view other note ∧ wrapper = .entered note

/-- The stage stands in both chains: in front of the one for the security context, as form login, or as one that leaves
context and session alone. -/
def Blueprint.Common (b : Blueprint σ) (plan : Plan σ) (entry : Int × Stage σ) : Prop :=
  entry ∈ plan.outer ∨ entry ∈ plan.login ∨ entry.2.LeavesAlone empties view other (b.Between entry.1)

/-- The same chain, but that saving is left to others. -/
def Blueprint.explicitly (b : Blueprint σ) : Blueprint σ :=
  { b with context := { b.context with explicitSave := true } }

/-- The two chains differ in nothing but in how they save. -/
def Chain.Twins (shared : Shared σ) (c c' : Chain σ) : Prop :=
  ∃ b : Blueprint σ, b.SavesLogins empties view other ∧ b.build shared = .ok c ∧ b.explicitly.build shared = .ok c'

end Twins

variable {empties : Prop} {view : σ → Sessions} {other : σ → τ} {shared : Shared σ}

/-- The same stage, but that saving is left to others. -/
def Stage.explicitly : Stage σ → Stage σ
  | .autoSave repository => .explicitSave repository
  | stage => stage

/-- The same plan, but that saving is left to others. -/
def Plan.explicitly (plan : Plan σ) : Plan σ :=
  { plan with context := plan.context.map fun c => (true, c.2) }

theorem Stage.LeavesAlone.explicitly {handsOn : Prop} {stage : Stage σ}
    (h : stage.LeavesAlone empties view other handsOn) : stage.explicitly = stage := by
  cases h <;> rfl

namespace Plan

variable (plan : Plan σ)

theorem explicitly_outer : ∀ entry ∈ plan.outer, entry.2.explicitly = entry.2 := by
  intro entry hentry
  simp only [outer, List.mem_append, List.mem_ite_nil_right, List.mem_singleton, List.mem_map] at hentry
  rcases hentry with ⟨-, rfl⟩ | ⟨-, rfl⟩ | ⟨c, -, rfl⟩ <;> rfl

theorem explicitly_inner : ∀ entry ∈ plan.inner, entry.2.explicitly = entry.2 := by
  intro entry hentry
  simp only [inner, List.mem_append, List.mem_ite_nil_right, List.mem_singleton, List.mem_map] at hentry
  rcases hentry with ⟨f, -, rfl⟩ | ⟨h, -, rfl⟩ | ⟨-, rfl⟩ | ⟨a, -, rfl⟩ <;> rfl

omit plan in
theorem map_explicitly {entries : List (Int × Stage σ)} (h : ∀ entry ∈ entries, entry.2.explicitly = entry.2) :
    (entries.map fun entry => (entry.1, entry.2.explicitly)) = entries := by
  rw [List.map_congr_left fun entry hentry => by rw [h entry hentry], List.map_id']

theorem placed_explicitly : plan.explicitly.placed = plan.placed.map fun entry => (entry.1, entry.2.explicitly) := by
  have hcontext : (plan.explicitly.context.toList.map fun c => (Blueprint.contextPlace, contextStage c)) =
      ((plan.context.toList.map fun c => (Blueprint.contextPlace, contextStage c)).map
        fun entry => (entry.1, entry.2.explicitly)) := by
    rw [Plan.explicitly]
    rcases plan.context with _ | ⟨_ | _, r⟩ <;> rfl
  rw [placed, placed, List.map_append, List.map_append, map_explicitly plan.explicitly_outer,
    map_explicitly plan.explicitly_inner, hcontext]
  rfl

end Plan

namespace Blueprint

variable {b : Blueprint σ}

/-- Only the stage for the security context is another one. -/
theorem Common.explicitly {plan : Plan σ} {entry : Int × Stage σ} (h : b.Common empties view other plan entry) :
    entry.2.explicitly = entry.2 := by
  rcases h with h | h | h
  · exact plan.explicitly_outer entry h
  · exact plan.explicitly_inner entry (List.mem_append_left _ h)
  · exact h.explicitly

theorem map_explicitly {plan : Plan σ} {entries : List (Int × Stage σ)}
    (h : ∀ entry ∈ entries, b.Common empties view other plan entry) :
    (entries.map fun entry => (entry.1, entry.2.explicitly)) = entries :=
  Plan.map_explicitly fun entry hentry => (h entry hentry).explicitly

theorem plan_explicitly (b : Blueprint σ) (shared : Shared σ) :
    b.explicitly.plan shared = Plan.explicitly <$> b.plan shared := by
  simp only [plan, map_eq_pure_bind, bind_assoc, pure_bind, Plan.explicitly, apply_ite (Option.map _)]
  rfl

/-- The stages that check credentials are those that have been asked for. -/
theorem logins_of_plan {plan : Plan σ} (h : b.plan shared = .ok plan) :
    plan.formLogin.isSome = b.formLogin.isSome ∧ plan.httpBasic.isSome = b.httpBasic.isSome := by
  obtain ⟨cors, -, h⟩ := Steps.bind_eq_ok_iff.1 h
  obtain ⟨form, hform, h⟩ := Steps.bind_eq_ok_iff.1 h
  obtain ⟨basic, hbasic, h⟩ := Steps.bind_eq_ok_iff.1 h
  obtain ⟨rules, -, h⟩ := Steps.bind_eq_ok_iff.1 h
  cases h
  exact ⟨Steps.isSome_of_mapM hform, Steps.isSome_of_mapM hbasic⟩

namespace SavesLogins

variable {plan : Plan σ} (hb : b.SavesLogins empties view other)
include hb

/-- Where contexts are kept: in sessions, none of which is opened for nothing. -/
theorem context (h : b.plan shared = .ok plan) : plan.context = none ∨
    b.context.disabled = false ∧ ∃ allow, plan.context = some (false, .inSession shared.store allow false) := by
  have hcontext := (found_of_plan h).context
  rw [hb.repository, hb.autoSave, Option.getD_none] at hcontext
  cases hdisabled : b.context.disabled with
  | true => exact .inl (by simpa [hdisabled] using hcontext)
  | false =>
    rw [hdisabled, if_neg Bool.false_ne_true] at hcontext
    rcases hb.policy with hpolicy | hpolicy <;> rw [hpolicy] at hcontext
    · exact .inr ⟨rfl, true, hcontext⟩
    · exact .inr ⟨rfl, false, hcontext⟩

/-- After form login there are only stages that leave the session alone. -/
theorem late_leavesAlone (h : b.plan shared = .ok plan) (handsOn : Prop) :
    ∀ entry ∈ plan.late, entry.2.LeavesAlone empties view other handsOn := by
  intro entry hentry
  simp only [Plan.late, List.mem_append, List.mem_ite_nil_right, List.mem_singleton, List.mem_map] at hentry
  rcases hentry with ⟨basic, hbasic, rfl⟩ | ⟨-, rfl⟩ | ⟨a, -, rfl⟩
  · have hsome := (logins_of_plan h).2
    rw [hb.httpBasic, Option.mem_toList.1 hbasic] at hsome
    cases hsome
  · exact .anonymous
  · exact .authorization a.1 a.2

theorem leavesAlone (h : b.plan shared = .ok plan) {entry : Int × Stage σ}
    (hentry : entry ∈ plan.late ∨ entry ∈ b.added) : entry.2.LeavesAlone empties view other (b.Between entry.1) :=
  hentry.elim (hb.late_leavesAlone h (b.Between entry.1) entry) (hb.added entry)

/-- Without a stage for the security context, the two chains are the same. -/
theorem common_of_sorted (h : b.plan shared = .ok plan) (hnone : plan.context = none) :
    ∀ entry ∈ b.sorted plan, b.Common empties view other plan entry := by
  intro entry hentry
  have hplaced : plan.placed ++ b.added = plan.outer ++ (plan.login ++ (plan.late ++ b.added)) := by
    simp [Plan.placed, Plan.inner, Plan.login, Plan.late, hnone]
  rw [sorted, List.mem_mergeSort, hplaced, List.mem_append, List.mem_append, List.mem_append] at hentry
  exact hentry.imp_right (Or.imp_right (hb.leavesAlone h))

/-- Around the stage for the security context there are stages that stand in both chains; between that stage and form
login, only such as hand on what they get from ahead. -/
theorem exists_layers (h : b.plan shared = .ok plan) (hloaded : b.context.disabled = false) {repository : Repository σ}
    (hsome : plan.context = some (false, repository)) : ∃ front between back : List (Int × Stage σ),
      b.sorted plan = front ++ (contextPlace, .autoSave repository) :: (between ++ (plan.login ++ back)) ∧
      (∀ entry ∈ front, b.Common empties view other plan entry) ∧
      (∀ entry ∈ between, entry.2.LeavesAlone empties view other (b.Between entry.1) ∧ b.Between entry.1) ∧
      ∀ entry ∈ back, entry.2.LeavesAlone empties view other (b.Between entry.1) := by
  obtain ⟨front, between, back, hsorted, hfront, hbetween, hback⟩ := plan.exists_layers hsome b.added
  refine ⟨front, between, back, hsorted, fun e he => (hfront e he).imp_right fun h => .inr (hb.added e h),
    fun e he => ?_, fun e he => hb.leavesAlone h (hback e he)⟩
  obtain ⟨hform, hmem, hplace, hplace'⟩ := hbetween e he
  exact ⟨hb.added e hmem, hloaded, (logins_of_plan h).1 ▸ hform, hplace, hplace'⟩

theorem sorted_explicitly (plan : Plan σ) :
    b.explicitly.sorted plan.explicitly = (b.sorted plan).map fun entry => (entry.1, entry.2.explicitly) := by
  have hadded := Plan.map_explicitly fun entry hentry => (hb.added entry hentry).explicitly
  have hsorted : (b.sorted plan).map (fun entry => (entry.1, entry.2.explicitly)) =
      ((plan.placed ++ b.added).map fun entry => (entry.1, entry.2.explicitly)).mergeSort fun x y => x.1 ≤ y.1 :=
    List.map_mergeSort fun _ _ _ _ => rfl
  rw [hsorted, List.map_append, hadded, ← Plan.placed_explicitly]
  rfl

end SavesLogins

end Blueprint

/-! ## Pipelines -/

section Pipelines

open Passage

variable [Clocked σ]

variable (empties view other) in
/-- All that is done to the stages is to do something on entering them, and that leaves the sessions alone. -/
def Stage.Notes (wrap : Stage σ → Stage σ) : Prop :=
  ∃ note, LeavesSessions empties view other note ∧
    ∀ stage ahead p, (wrap stage).run ahead p = stage.run ahead { p with backend := note p.backend }

namespace Stage.Notes

variable {wrap : Stage σ → Stage σ} {before after : Passage σ → Passage σ → Prop} {stage stage' : Stage σ}

theorem alongside (h : Notes empties view other wrap) (hbefore : Tolerant empties view other before)
    {ahead ahead' : Ahead σ} (hrun : Flow.Alongside before after (stage.run ahead) (stage'.run ahead')) :
    Flow.Alongside before after ((wrap stage).run ahead) ((wrap stage').run ahead') := by
  obtain ⟨note, hnote, hwrap⟩ := h
  intro p q hpq
  rw [hwrap, hwrap]
  exact hrun _ _ (hbefore.touch hnote hpq)

theorem steady (h : Notes empties view other wrap) (hbefore : Tolerant empties view other before)
    (hstage : stage.Steady before after) : (wrap stage).Steady before after :=
  fun n rest rest' hrest => h.alongside hbefore (hstage n rest rest' hrest)

end Stage.Notes

namespace Blueprint.SavesLogins

variable {b : Blueprint σ} {plan : Plan σ} {handler : Flow σ Response} {allow : Bool}

theorem notes (hb : b.SavesLogins empties view other) : Stage.Notes empties view other b.wrapStage :=
  Blueprint.wrapStage_entered .id (fun _ _ hf hg => hg.comp hf) hb.wrappers

section Layers

variable (hb : b.SavesLogins empties view other) (hstore : shared.store.Prompt view)
  (hspares : shared.store.Spares other)
include hb hstore hspares

/-- Where nothing is saved, every stage but the one for the security context does the same in passages that are
alike. -/
theorem steady_outside (hclock : ∀ s : σ, Clocked.now s = (view s).now) {entry : Int × Stage σ}
    (h : b.Common empties view other plan entry) :
    (b.wrapStage entry.2).Steady (Outside empties view other (.inSession shared.store allow false))
      (Outside empties view other (.inSession shared.store allow false)) := by
  refine hb.notes.steady tolerant_outside ?_
  rcases h with h | h | h
  · simp only [Plan.outer, List.mem_append, List.mem_ite_nil_right, List.mem_singleton, List.mem_map] at h
    rcases h with ⟨-, rfl⟩ | ⟨-, rfl⟩ | ⟨c, -, rfl⟩
    · exact Stage.steady_tracing
    · exact Stage.steady_metrics hclock
    · exact Stage.steady_cors c.1 c.2
  · obtain ⟨f, -, rfl⟩ := List.mem_map.1 h
    exact Stage.steady_formLogin f.1 f.2 tolerant_outside (fun _ _ h => h)
      fun _ _ a h => h.succeed hstore hspares f.1 a
  · exact h.steady tolerant_outside (fun _ _ h => h) (.inr fun _ _ h => h)

variable (hhandler : handler.LeavesAlone empties view other)
include hhandler

/-- What stands behind the stage for the security context. -/
theorem alongside_inside {between back : List (Int × Stage σ)}
    (hbetween : ∀ entry ∈ between, entry.2.LeavesAlone empties view other (b.Between entry.1) ∧ b.Between entry.1)
    (hback : ∀ entry ∈ back, entry.2.LeavesAlone empties view other (b.Between entry.1)) (plan : Plan σ) :
    Flow.Alongside (Inside empties view other (.inSession shared.store allow false))
      (Returning empties view other (.inSession shared.store allow false))
      (Pipeline.run handler ((between ++ (plan.login ++ back)).map (b.wrapStage ·.2)))
      (Pipeline.run handler ((between ++ (plan.login ++ back)).map (b.wrapStage ·.2))) := by
  have hturn : ∀ p q, Inside empties view other (.inSession shared.store allow false) p q →
      Returning empties view other (.inSession shared.store allow false) p q := fun _ _ h => h.returning hstore hspares
  have hlast : Flow.Alongside (Inside empties view other (.inSession shared.store allow false))
      (Inside empties view other (.inSession shared.store allow false))
      (Pipeline.run handler (back.map (b.wrapStage ·.2))) (Pipeline.run handler (back.map (b.wrapStage ·.2))) :=
    Pipeline.alongside_self hhandler tolerant_inside (List.forall_mem_map.2 fun entry hentry =>
      hb.notes.steady tolerant_inside
        ((hback entry hentry).steady tolerant_inside (fun _ _ h => h) (.inr fun _ _ h => h)))
  rw [List.map_append, List.map_append]
  refine Pipeline.alongside_append (List.forall_mem_map.2 fun entry hentry => ?_) rfl
    (Pipeline.alongside_append (List.forall_mem_map.2 fun entry hentry => ?_) rfl (hlast.mono (fun _ _ h => h) hturn))
  · obtain ⟨hleaves, hhands⟩ := hbetween entry hentry
    exact hb.notes.steady tolerant_inside (hleaves.steady tolerant_inside hturn (.inl hhands))
  · obtain ⟨f, -, rfl⟩ := List.mem_map.1 hentry
    exact hb.notes.steady tolerant_inside (Stage.steady_formLogin f.1 f.2 tolerant_inside hturn
      fun _ _ a h => h.succeed hstore hspares f.1 a)

/-- A pipeline that saves after each request, beside one that leaves saving to others. -/
theorem alongside (hclock : ∀ s : σ, Clocked.now s = (view s).now) (hplan : b.plan shared = .ok plan) :
    ∃ repository, Flow.Alongside (Outside empties view other repository) (Outside empties view other repository)
      (Pipeline.run handler ((b.sorted plan).map (b.wrapStage ·.2)))
      (Pipeline.run handler ((b.explicitly.sorted plan.explicitly).map (b.wrapStage ·.2))) := by
  have hsteady {allow : Bool} {entries : List (Int × Stage σ)}
      (h : ∀ entry ∈ entries, b.Common empties view other plan entry) : ∀ stage ∈ entries.map (b.wrapStage ·.2),
      stage.Steady (Outside empties view other (.inSession shared.store allow false))
        (Outside empties view other (.inSession shared.store allow false)) :=
    List.forall_mem_map.2 fun entry hentry => hb.steady_outside hstore hspares hclock (h entry hentry)
  rw [hb.sorted_explicitly]
  rcases hb.context hplan with hnone | ⟨hloaded, allow, hsome⟩
  -- without a stage for the security context nothing is saved, and any repository will do
  · have hall := hb.common_of_sorted hplan hnone
    rw [map_explicitly hall]
    exact ⟨.inSession shared.store true false, Pipeline.alongside_self hhandler tolerant_outside (hsteady hall)⟩
  · obtain ⟨front, between, back, hsorted, hfront, hbetween, hback⟩ := hb.exists_layers hplan hloaded hsome
    have hbehind : ∀ entry ∈ between ++ (plan.login ++ back), b.Common empties view other plan entry := by
      intro entry hentry
      rcases List.mem_append.1 hentry with h | h
      · exact .inr (.inr (hbetween entry h).1)
      · exact .inr ((List.mem_append.1 h).imp_right (hback entry))
    have hexplicit : ((b.sorted plan).map fun entry => (entry.1, entry.2.explicitly)) = front ++
        (contextPlace, .explicitSave (.inSession shared.store allow false)) :: (between ++ (plan.login ++ back)) := by
      rw [hsorted, List.map_append, List.map_cons, map_explicitly hfront, map_explicitly hbehind]
      rfl
    have hstages (stage : Stage σ) :
        (front ++ (contextPlace, stage) :: (between ++ (plan.login ++ back))).map (b.wrapStage ·.2) =
          front.map (b.wrapStage ·.2) ++
            b.wrapStage stage :: (between ++ (plan.login ++ back)).map (b.wrapStage ·.2) := by
      rw [List.map_append, List.map_cons]
    refine ⟨.inSession shared.store allow false, ?_⟩
    rw [hexplicit, hsorted, hstages, hstages]
    refine Pipeline.alongside_append (hsteady hfront) (by simp) ?_
    exact hb.notes.alongside tolerant_outside (Stage.alongside_context hstore hspares _
      (Pipeline.alongside_self hhandler tolerant_outside (hsteady hbehind))
      (hb.alongside_inside hstore hspares hhandler hbetween hback plan))

end Layers

end Blueprint.SavesLogins

/-- The pipelines of twins, side by side. -/
theorem Chain.Twins.alongside {c c' : Chain σ} (h : c.Twins empties view other shared c') {handler : Flow σ Response}
    (hstore : shared.store.Prompt view) (hspares : shared.store.Spares other)
    (hclock : ∀ s : σ, Clocked.now s = (view s).now) (hhandler : handler.LeavesAlone empties view other) :
    ∃ repository, Flow.Alongside (Outside empties view other repository) (Outside empties view other repository)
      (Pipeline.run handler c.stages) (Pipeline.run handler c'.stages) := by
  obtain ⟨b, hb, hc, hc'⟩ := h
  obtain ⟨matcher, plan, -, hplan, rfl⟩ := b.exists_plan_sorted hc
  obtain ⟨matcher', plan', -, hplan', rfl⟩ := b.explicitly.exists_plan_sorted hc'
  rw [Blueprint.plan_explicitly, hplan] at hplan'
  cases hplan'
  exact hb.alongside hstore hspares hhandler hclock hplan

end Pipelines

/-- Twins are for the same paths, and the same cookie names their sessions. -/
theorem Chain.Twins.lookup {c c' : Chain σ} (h : c.Twins empties view other shared c') :
    c'.matcher = c.matcher ∧ c'.cookieName = c.cookieName := by
  obtain ⟨b, hb, hc, hc'⟩ := h
  obtain ⟨matcher, plan, hmatcher, -, rfl⟩ := b.exists_plan_sorted hc
  obtain ⟨matcher', plan', hmatcher', -, rfl⟩ := b.explicitly.exists_plan_sorted hc'
  have hsame : b.explicitly.matcher = b.matcher := rfl
  rw [hsame, hmatcher] at hmatcher'
  cases hmatcher'
  exact ⟨rfl, rfl⟩

/-! ## Guards -/

namespace Guard

section Relations

variable (empties : Prop) (view : σ → Sessions) (other : σ → τ)

/-- The two desks are alike. -/
structure Desk.Alike (d d' : Desk σ) : Prop where
  metrics : d.metrics = d'.metrics
  backend : Akin empties view other d.backend d'.backend

/-- The event leaves context and session alone: it is a request whose handler does, or time that passes. -/
def Event.LeavesAlone : Event σ → Prop
  | .request _ handler => handler.LeavesAlone empties view other
  | .meanwhile f => (∃ ms, ∀ s, view (f s) = (view s).wait ms) ∧
    ∀ s t, Akin empties view other s t → other (f s) = other (f t)

/-- The guards hold chains that differ in nothing but in how they save. -/
def Twins (shared : Shared σ) (g g' : Guard σ) : Prop :=
  List.Forall₂ (Chain.Twins empties view other shared) g.chains g'.chains

end Relations

/-- What comes of the requests among the events, the latest of which stands first, and what is served for them. -/
def answers [Clocked σ] (g : Guard σ) (d : Desk σ) : List (Event σ) → List (Except Failure Response × Response)
  | [] => []
  | .request r handler :: past =>
    ((g.handle handler r (g.after d past)).1, (g.serve handler r (g.after d past)).1) :: g.answers d past
  | .meanwhile _ :: past => g.answers d past

variable {g g' : Guard σ} {d d' : Desk σ}

theorem Twins.chainFor? (h : g.Twins empties view other shared g') (path : String) :
    g.chainFor? path = none ∧ g'.chainFor? path = none ∨
      ∃ c c', g.chainFor? path = some c ∧ g'.chainFor? path = some c' ∧ c.Twins empties view other shared c' := by
  unfold Twins at h
  unfold Guard.chainFor?
  generalize g.chains = chains, g'.chains = chains' at h
  induction h with
  | nil => exact .inl ⟨rfl, rfl⟩
  | @cons c c' rest rest' hc hrest ih =>
    rw [List.find?_cons, List.find?_cons, hc.lookup.1]
    cases c.matcher.covers path with
    | true => exact .inr ⟨c, c', rfl, rfl, hc⟩
    | false => exact ih

/-- The same cookie names a session to both. -/
theorem Twins.newExchange (h : g.Twins empties view other shared g') (r : Request) :
    g.newExchange r = g'.newExchange r := by
  rw [Guard.newExchange, Guard.newExchange]
  rcases h.chainFor? r.path with ⟨hc, hc'⟩ | ⟨c, c', hc, hc', htwins⟩
  · rw [hc, hc']
  · rw [hc, hc', Option.map_some, Option.map_some, htwins.lookup.2]

section Runs

variable [Clocked σ] {r : Request} {handler : Flow σ Response} (htwins : g.Twins empties view other shared g')
  (hstore : shared.store.Prompt view) (hspares : shared.store.Spares other)
  (hclock : ∀ s : σ, Clocked.now s = (view s).now)
include htwins hstore hspares hclock

/-- On desks that are alike, the two guards come to the same outcome for a request, with the same headers queued, and
leave the desks alike. -/
theorem Twins.runRequest (hd : d.Alike empties view other d') (hhandler : handler.LeavesAlone empties view other) :
    (g.runRequest handler r d).1 = (g'.runRequest handler r d').1 ∧
      (g.runRequest handler r d).2.1.pending = (g'.runRequest handler r d').2.1.pending ∧
      (g.runRequest handler r d).2.2.Alike empties view other (g'.runRequest handler r d').2.2 := by
  have henter (repository : Repository σ) :
      Passage.Outside empties view other repository (g.enter r d) (g'.enter r d') := by
    refine ⟨⟨?_, hd.metrics, hd.backend⟩, rfl, rfl, .inl rfl⟩
    rw [enter, enter, htwins.newExchange]
  obtain ⟨repository, houtcome, hback⟩ : ∃ repository,
      (g.execute handler (g.enter r d)).1 = (g'.execute handler (g'.enter r d')).1 ∧
      Passage.Outside empties view other repository (g.execute handler (g.enter r d)).2
        (g'.execute handler (g'.enter r d')).2 := by
    simp only [execute, Steps.bind_apply, Flow.request]
    have hpath : (g.enter r d).exchange.request.path = r.path := rfl
    have hpath' : (g'.enter r d').exchange.request.path = r.path := rfl
    rw [hpath, hpath']
    rcases htwins.chainFor? r.path with ⟨hc, hc'⟩ | ⟨c, c', hc, hc', hchains⟩
    · rw [hc, hc']
      exact ⟨.none, hhandler.alongside Passage.tolerant_outside _ _ (henter .none)⟩
    · obtain ⟨repository, halongside⟩ := hchains.alongside hstore hspares hclock hhandler
      rw [hc, hc']
      exact ⟨repository, halongside _ _ (henter repository)⟩
  have hpending := congrArg Visit.pending (Exchange.eq_of_outward hback.alike.exchange).1
  exact ⟨houtcome, hpending, hback.alike.metrics, hback.alike.backend⟩

/-- After any events the two desks are alike, and the answers have been the same. -/
theorem Twins.run (hd : d.Alike empties view other d') {history : List (Event σ)}
    (hhistory : ∀ e ∈ history, e.LeavesAlone empties view other) :
    g.answers d history = g'.answers d' history ∧
      (g.after d history).Alike empties view other (g'.after d' history) := by
  induction history with
  | nil => exact ⟨rfl, hd⟩
  | cons e past ih =>
    rw [List.forall_mem_cons] at hhistory
    obtain ⟨hanswers, hdesks⟩ := ih hhistory.2
    cases e with
    | request r handler =>
      obtain ⟨houtcome, hpending, hafter⟩ :=
        htwins.runRequest hstore hspares hclock (r := r) hdesks hhistory.1
      refine ⟨?_, hafter⟩
      have hfinish : (g.runRequest handler r (g.after d past)).2.1.finish =
          (g'.runRequest handler r (g'.after d' past)).2.1.finish := by
        funext response
        rw [Exchange.finish, Exchange.finish, hpending]
      have hhandle : (g.handle handler r (g.after d past)).1 = (g'.handle handler r (g'.after d' past)).1 := by
        simp only [handle, houtcome, hfinish]
      have hserve : (g.serve handler r (g.after d past)).1 = (g'.serve handler r (g'.after d' past)).1 := by
        simp only [serve, houtcome, hfinish]
      rw [answers, answers, hanswers, hhandle, hserve]
    | meanwhile f =>
      obtain ⟨⟨ms, hwait⟩, hrest⟩ := hhistory.1
      exact ⟨hanswers, hdesks.metrics, hdesks.backend.wait hwait hrest⟩

/-- **The two ways of saving.** Guards of chains that differ in nothing but in how they save give the same answers to
the same requests. They end with the same live sessions, which tell a request the same contexts; and where no session
held an empty context at the start, with the same sessions altogether. -/
theorem save_modes_agree (hsound : (view d.backend).Sound empties) {history : List (Event σ)}
    (hhistory : ∀ e ∈ history, e.LeavesAlone empties view other) :
    g.answers d history = g'.answers d history ∧
      (∀ id, ((view (g.after d history).backend).live? id).isSome =
          ((view (g'.after d history).backend).live? id).isSome ∧
        ((view (g.after d history).backend).fetch id).1.getD .empty =
          ((view (g'.after d history).backend).fetch id).1.getD .empty) ∧
      (¬ empties → view (g.after d history).backend = view (g'.after d history).backend) := by
  obtain ⟨hanswers, -, hbackend⟩ := htwins.run hstore hspares hclock ⟨rfl, .refl hsound⟩ hhistory
  refine ⟨hanswers, fun id => ⟨?_, ?_⟩, hbackend.view_eq⟩
  · have hlive := congrArg (fun s : Sessions => (s.live? id).isSome) hbackend.sessions
    simpa using hlive
  · exact ((Sessions.tidily_found id).congr hbackend.sessions).1

end Runs

end Guard

/-! ## A chain with form login, in both ways -/

/-- The chain with form login that leaves saving to it. -/
def Chain.formExplicit : Chain Sessions :=
  { Chain.formOnly with stages := [.explicitSave (.inSession Sessions.store true false),
      .formLogin {} ⟨[{ username := "ann", password := "secret" }]⟩, .anonymous] }

theorem Chain.build_formExplicit :
    (Blueprint.explicitly { formLogin := some {} }).build Shared.ofAnn = .ok Chain.formExplicit := by
  rw [Blueprint.build_eq ⟨rfl, rfl⟩]
  rfl

theorem Flow.leavesAlone_allRight : Flow.allRight.LeavesAlone False id fun _ => () :=
  ⟨Flow.quiet_allRight, fun _ => rfl, fun _ _ h => ⟨rfl, h⟩⟩

namespace Guard

/-- A guard with that chain. -/
def formExplicit : Guard Sessions :=
  ⟨[.formExplicit]⟩

theorem twins_form : formOnly.Twins False id (fun _ => ()) Shared.ofAnn formExplicit := by
  refine .cons ⟨{ formLogin := some {} }, ?_, Chain.build_formOnly, Chain.build_formExplicit⟩ .nil
  exact ⟨rfl, rfl, .inl rfl, rfl, nofun, nofun⟩

/-- A second passes, and then `ann` logs in. -/
def lateLoginOfAnn : List (Event Sessions) :=
  [.request .formOfAnn Flow.allRight, .meanwhile (·.wait 1000)]

/-- Either way the login of `ann` is kept in the new session. -/
theorem ann_kept_either_way :
    formOnly.answers plantedDesk lateLoginOfAnn = formExplicit.answers plantedDesk lateLoginOfAnn ∧
      (formOnly.after plantedDesk lateLoginOfAnn).backend = (formExplicit.after plantedDesk lateLoginOfAnn).backend ∧
      ((formOnly.after plantedDesk lateLoginOfAnn).backend.fetch (Ulid.ofNat 1)).1 =
        some ⟨some ⟨"ann", [], true, .formLogin⟩⟩ := by
  have hsound : Sessions.Sound False plantedDesk.backend := by
    refine ⟨Sessions.Distinct.create List.nodup_nil, fun i c hc => ?_⟩
    obtain ⟨session, hmem, -⟩ := (Sessions.create_opens newDesk.backend).others i c hc
    cases hmem
  have hhistory : ∀ e ∈ lateLoginOfAnn, e.LeavesAlone False id fun _ => () := by
    refine List.forall_mem_cons.2 ⟨Flow.leavesAlone_allRight, List.forall_mem_singleton.2 ?_⟩
    exact ⟨⟨1000, fun _ => rfl⟩, fun _ _ _ => rfl⟩
  obtain ⟨hanswers, -, hsame⟩ := save_modes_agree twins_form Sessions.store_prompt
    (Sessions.store_spares _ fun _ _ => rfl) (fun _ => rfl) hsound hhistory
  exact ⟨hanswers, hsame not_false, by decide +kernel⟩

/-- The empty context has been put into a session that is open. -/
def emptiedDesk : Desk Sessions where
  backend := (plantedDesk.backend.put (Ulid.ofNat 0) .empty).2

/-- A request that presents that session. -/
def requestOfNobody : Request where
  method := .get
  path := "/"
  cookies := [("SESSION", (Ulid.ofNat 0).text)]

/-- The answer to a question. -/
def verdict (b : Bool) : Response :=
  ⟨if b then 200 else 404, [], .null⟩

/-- A handler that tells what it sees of the exchange. -/
def seeing (test : Exchange Sessions → Bool) : Flow Sessions Response :=
  fun p => (.ok (verdict (test p.exchange)), p)

/-- A stage that passes the request on and then tells what it sees of the exchange. -/
def lookingBack (test : Exchange Sessions → Bool) : Program Sessions :=
  .pass fun _ => .look fun e => .answer (verdict (test e))

/-- Form login, and at one place such a stage. -/
def withStage (place : Int) (test : Exchange Sessions → Bool) : Blueprint Sessions where
  formLogin := some {}
  added := [(place, .custom "looking back" (lookingBack test))]

/-- The plan for form login, and nothing else but what every chain has. -/
def formPlan (explicit : Bool) : Plan Sessions where
  tracing := false
  metrics := false
  cors := none
  context := some (explicit, .inSession Sessions.store true false)
  formLogin := some ({}, ⟨[{ username := "ann", password := "secret" }]⟩)
  httpBasic := none
  anonymous := true
  authorization := none

/-- The stages of that plan and such a stage, in order. -/
def stagesWith (explicit : Bool) (place : Int) (test : Exchange Sessions → Bool) : List (Stage Sessions) :=
  (((formPlan explicit).placed ++ (withStage place test).added).mergeSort fun x y => x.1 ≤ y.1).map (·.2)

theorem build_withStage (place : Int) (test : Exchange Sessions → Bool) :
    (withStage place test).build Shared.ofAnn = .ok { Chain.formOnly with stages := stagesWith false place test } ∧
      (withStage place test).explicitly.build Shared.ofAnn =
        .ok { Chain.formOnly with stages := stagesWith true place test } := by
  have hpattern : PathPattern.ofSetting "/**" = .ok ⟨"/**", [.anyDepth]⟩ := by rfl
  have hmatcher : (withStage place test).matcher = "/**" := rfl
  have hmatcher' : (withStage place test).explicitly.matcher = "/**" := rfl
  rw [Blueprint.build_sorted, Blueprint.build_sorted, hmatcher, hmatcher', hpattern]
  exact ⟨rfl, rfl⟩

/-- The stage stands where its place is: between loading the context and form login, or in front of both. -/
theorem stagesWith_eq (explicit : Bool) (test : Exchange Sessions → Bool) :
    stagesWith explicit 250 test = [Plan.contextStage (explicit, .inSession Sessions.store true false),
        .custom "looking back" (lookingBack test), .formLogin {} ⟨[{ username := "ann", password := "secret" }]⟩,
        .anonymous] ∧
      stagesWith explicit 10 test = [.custom "looking back" (lookingBack test),
        Plan.contextStage (explicit, .inSession Sessions.store true false),
        .formLogin {} ⟨[{ username := "ann", password := "secret" }]⟩, .anonymous] := by
  simp [stagesWith, formPlan, withStage, Plan.placed, Plan.outer, Plan.inner, Blueprint.contextPlace,
    Blueprint.formLoginPlace, Blueprint.anonymousPlace, List.mergeSort]

/-- The two ways of saving are told apart by the status of an answer. -/
def ToldApart (b : Blueprint Sessions) (handler : Flow Sessions Response) (r : Request) : Prop :=
  ∃ c c', b.build Shared.ofAnn = .ok c ∧ b.explicitly.build Shared.ofAnn = .ok c' ∧
    ((Guard.mk [c]).serve handler r newDesk).1.status ≠ ((Guard.mk [c']).serve handler r newDesk).1.status

/-- The two ways of saving can be told apart by what is left of an empty context, by a handler that sees whether a save
has been prepared, by a stage between loading the context and form login that looks at the session when it has passed
the request on, and by a stage in front that looks then at whether the context has been saved. None of these names
anybody. -/
theorem save_modes_differ :
    ((∀ id c, emptiedDesk.backend.Holds id c → c.authentication = none) ∧
      ((formOnly.serve Flow.allRight requestOfNobody emptiedDesk).2.backend.fetch (Ulid.ofNat 0)).1 = none ∧
      ((formExplicit.serve Flow.allRight requestOfNobody emptiedDesk).2.backend.fetch (Ulid.ofNat 0)).1 =
        some .empty) ∧
    (∀ test, (seeing test).Quiet id ∧ (lookingBack test).Quiet id) ∧
    ToldApart { formLogin := some {} } (seeing (·.hook.isSome)) requestOfNobody ∧
    ToldApart (withStage 250 (·.session.isSome)) Flow.allRight { Request.formOfAnn with cookies := [] } ∧
    ToldApart (withStage 10 (·.state == .saved)) Flow.allRight requestOfNobody := by
  refine ⟨⟨?_, by decide +kernel⟩, fun test => ⟨fun _ => ⟨rfl, rfl, rfl, rfl, rfl, .refl _⟩, ?_⟩, ?_, ?_, ?_⟩
  · have hheld : emptiedDesk.backend.held = [(Ulid.ofNat 0, ⟨some .empty, 0⟩)] := by decide +kernel
    rintro id c ⟨session, hmem, hc⟩
    rw [hheld, List.mem_singleton] at hmem
    cases hmem
    cases hc
    rfl
  · exact .pass fun _ => .look fun _ => .answer _
  · exact ⟨_, _, Chain.build_formOnly, Chain.build_formExplicit, by decide +kernel⟩
  · refine ⟨_, _, (build_withStage ..).1, (build_withStage ..).2, ?_⟩
    rw [(stagesWith_eq false _).1, (stagesWith_eq true _).1]
    decide +kernel
  · refine ⟨_, _, (build_withStage ..).1, (build_withStage ..).2, ?_⟩
    rw [(stagesWith_eq false _).2, (stagesWith_eq true _).2]
    decide +kernel

end Guard

end Portcullis
