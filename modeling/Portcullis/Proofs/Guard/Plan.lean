import Portcullis.Guard.Chain
import Portcullis.Proofs.Steps

/-!
# Plans

What is left of a blueprint when everything it refers to has been looked up: for each of the library's own stages,
whether it is wanted and what it works with. A blueprint is plain when the host has added no stages and wraps none; the
chain of a plain blueprint consists of the stages of its plan, in their fixed order (`Blueprint.build_eq`). Where the
host has added stages, they are sorted in between, each by its place (`Plan.exists_layers`).
-/

namespace Portcullis

/-- The stages of a plain chain. -/
structure Plan (σ : Type) where
  tracing : Bool
  metrics : Bool
  cors : Option (Cors.Source × RejectPolicy)
  /-- Whether saving is left to others, and where contexts are kept. -/
  context : Option (Bool × Repository σ)
  formLogin : Option (FormLogin × Users)
  httpBasic : Option (String × Users)
  anonymous : Bool
  authorization : Option (List Rule × EntryPoint)

namespace Plan

variable {σ : Type}

/-- The stage for the security context. -/
def contextStage : Bool × Repository σ → Stage σ
  | (true, repository) => .explicitSave repository
  | (false, repository) => .autoSave repository

/-- The stages up to the one for the security context, with their places. -/
def outer (plan : Plan σ) : List (Int × Stage σ) :=
  (if plan.tracing then [(Blueprint.tracingPlace, .tracing)] else []) ++
    ((if plan.metrics then [(Blueprint.metricsPlace, .metrics)] else []) ++
      (plan.cors.toList.map fun c => (Blueprint.corsPlace, .cors c.1 c.2)))

/-- The stages after the one for the security context, with their places. -/
def inner (plan : Plan σ) : List (Int × Stage σ) :=
  (plan.formLogin.toList.map fun f => (Blueprint.formLoginPlace, .formLogin f.1 f.2)) ++
    ((plan.httpBasic.toList.map fun h => (Blueprint.httpBasicPlace, .httpBasic h.1 h.2)) ++
      ((if plan.anonymous then [(Blueprint.anonymousPlace, .anonymous)] else []) ++
        plan.authorization.toList.map fun a => (Blueprint.authorizationPlace, .authorization a.1 a.2)))

/-- The stages with their places. -/
def placed (plan : Plan σ) : List (Int × Stage σ) :=
  plan.outer ++ ((plan.context.toList.map fun c => (Blueprint.contextPlace, contextStage c)) ++ plan.inner)

/-- The stages in order. -/
def stages (plan : Plan σ) : List (Stage σ) :=
  plan.placed.map (·.2)

/-- The stages up to form login, with their places. -/
def early (plan : Plan σ) : List (Int × Stage σ) :=
  plan.outer ++ ((plan.context.toList.map fun c => (Blueprint.contextPlace, contextStage c)) ++
    plan.formLogin.toList.map fun f => (Blueprint.formLoginPlace, .formLogin f.1 f.2))

/-- Form login, with its place. -/
def login (plan : Plan σ) : List (Int × Stage σ) :=
  plan.formLogin.toList.map fun f => (Blueprint.formLoginPlace, .formLogin f.1 f.2)

/-- The stages after form login, with their places. -/
def late (plan : Plan σ) : List (Int × Stage σ) :=
  (plan.httpBasic.toList.map fun h => (Blueprint.httpBasicPlace, .httpBasic h.1 h.2)) ++
    ((if plan.anonymous then [(Blueprint.anonymousPlace, .anonymous)] else []) ++
      plan.authorization.toList.map fun a => (Blueprint.authorizationPlace, .authorization a.1 a.2))

theorem placed_eq (plan : Plan σ) : plan.placed = plan.early ++ plan.late := by
  simp only [placed, early, late, inner, List.append_assoc]

theorem places_wanted (b : Bool) (place : Int) (stage : Stage σ) :
    ((if b then [(place, stage)] else []).map (·.1)).Sublist [place] := by
  cases b <;> simp

theorem places_found {α : Type} (o : Option α) (place : Int) (stage : α → Stage σ) :
    ((o.toList.map fun a => (place, stage a)).map (·.1)).Sublist [place] := by
  cases o <;> simp

theorem outer_places (plan : Plan σ) : (plan.outer.map (·.1)).Sublist [0, 50, 100] := by
  simp only [outer, List.map_append]
  exact (places_wanted ..).append ((places_wanted ..).append (places_found ..))

theorem early_places (plan : Plan σ) : (plan.early.map (·.1)).Sublist [0, 50, 100, 200, 300] := by
  simp only [early, List.map_append]
  exact plan.outer_places.append ((places_found ..).append (places_found ..))

theorem late_places (plan : Plan σ) : (plan.late.map (·.1)).Sublist [400, 500, 600] := by
  simp only [late, List.map_append]
  exact (places_found ..).append ((places_wanted ..).append (places_found ..))

theorem places_sublist (plan : Plan σ) :
    (plan.placed.map (·.1)).Sublist [0, 50, 100, 200, 300, 400, 500, 600] := by
  rw [placed_eq, List.map_append]
  exact plan.early_places.append plan.late_places

/-- The stages stand in order already. -/
theorem sort_placed (plan : Plan σ) : (plan.placed.mergeSort fun x y => x.1 ≤ y.1) = plan.placed := by
  apply List.mergeSort_of_pairwise
  have h : (plan.placed.map (·.1)).Pairwise (· ≤ ·) := List.Pairwise.sublist plan.places_sublist (by decide)
  exact (List.pairwise_map.1 h).imp fun h => by simpa using h

/-- Of a list that is to be sorted, a front that is sorted and that nothing has to stand before stays where it is. -/
theorem mergeSort_append {α : Type} {le : α → α → Bool} (trans : ∀ a b c, le a b → le b c → le a c)
    (total : ∀ a b, le a b || le b a) {front back : List α} (hfront : front.Pairwise fun a b => le a b = true)
    (hback : ∀ a ∈ front, ∀ b ∈ back, le a b = true) : (front ++ back).mergeSort le = front ++ back.mergeSort le := by
  induction front with
  | nil => rfl
  | cons a front ih =>
    rw [List.pairwise_cons] at hfront
    rw [List.forall_mem_cons] at hback
    obtain ⟨before, after, hsorted, hrest, hbefore⟩ := List.mergeSort_cons trans total a (front ++ back)
    have hnone : before = [] := by
      refine List.eq_nil_iff_forall_not_mem.2 fun b hb => ?_
      have hmem : b ∈ front ++ back := by
        rw [← List.mem_mergeSort, hrest]
        exact List.mem_append_left _ hb
      have hle : le a b = true := (List.mem_append.1 hmem).elim (hfront.1 b) (hback.1 b)
      simpa [hle] using hbefore b hb
    rw [hnone, List.nil_append] at hsorted hrest
    rw [List.cons_append, hsorted, ← hrest, ih hfront.2 hback.2, List.cons_append]

/-- What stands before the first of two parts is the front of what stands before the other. -/
theorem exists_between {α : Type} {front rest before behind : List α} {x : α}
    (h : front ++ rest = before ++ x :: behind) (hx : x ∉ front) :
    ∃ between, before = front ++ between ∧ rest = between ++ x :: behind := by
  rcases List.append_eq_append_iff.1 h with ⟨between, hbefore, hrest⟩ | ⟨more, hfront, hmore⟩
  · exact ⟨between, hbefore, hrest⟩
  · cases more with
    | nil => exact ⟨[], by simpa using hfront.symm, hmore.symm⟩
    | cons y more =>
      cases hmore
      exact absurd (by simp [hfront]) hx

/-- What nothing has to stand before is sorted into what stands before `x`. -/
theorem exists_mergeSort_append {α : Type} {le : α → α → Bool} (trans : ∀ a b c, le a b → le b c → le a c)
    (total : ∀ a b, le a b || le b a) {front l before behind : List α} {x : α}
    (hl : l.mergeSort le = before ++ x :: behind) (hfront : ∀ a ∈ front, le a x = true) :
    ∃ before', (front ++ l).mergeSort le = before' ++ x :: behind ∧ ∀ a ∈ before', a ∈ front ∨ a ∈ before := by
  induction front with
  | nil => exact ⟨before, hl, fun a ha => .inr ha⟩
  | cons a front ih =>
    rw [List.forall_mem_cons] at hfront
    obtain ⟨before', hsorted, hmem⟩ := ih hfront.2
    obtain ⟨less, rest, hcons, hrest, hless⟩ := List.mergeSort_cons trans total a (front ++ l)
    have hx : x ∉ less := fun hx => by simpa [hfront.1] using hless x hx
    obtain ⟨between, rfl, rfl⟩ := exists_between (hrest.symm.trans hsorted) hx
    refine ⟨less ++ a :: between, by rw [List.cons_append, hcons, List.append_assoc, List.cons_append], ?_⟩
    intro b hb
    rcases List.mem_append.1 hb with hb | hb
    · exact (hmem b (List.mem_append_left _ hb)).imp_left (List.mem_cons_of_mem a)
    rcases List.mem_cons.1 hb with rfl | hb
    · exact .inl List.mem_cons_self
    · exact (hmem b (List.mem_append_right _ hb)).imp_left (List.mem_cons_of_mem a)

theorem places_trans (x y z : Int × Stage σ) :
    decide (x.1 ≤ y.1) = true → decide (y.1 ≤ z.1) = true → decide (x.1 ≤ z.1) = true := by
  simpa using Int.le_trans

theorem places_total (x y : Int × Stage σ) : (decide (x.1 ≤ y.1) || decide (y.1 ≤ x.1)) = true := by
  simpa using Int.le_total x.1 y.1

/-- Stages of the host that stand at the place of form login or behind it leave the stages up to there where they are. -/
theorem sort_placed_append (plan : Plan σ) {added : List (Int × Stage σ)}
    (hadded : ∀ entry ∈ added, Blueprint.formLoginPlace ≤ entry.1) :
    ((plan.placed ++ added).mergeSort fun x y => x.1 ≤ y.1) =
      plan.early ++ (plan.late ++ added).mergeSort fun x y => x.1 ≤ y.1 := by
  have hplaces : (plan.early.map (·.1)).Pairwise (· ≤ ·) := List.Pairwise.sublist plan.early_places (by decide)
  rw [placed_eq, List.append_assoc]
  refine mergeSort_append places_trans places_total ?_ fun x hx y hy => ?_
  · exact (List.pairwise_map.1 hplaces).imp fun h => by simpa using h
  · have hx' : x.1 ≤ 300 := by
      have hmem := plan.early_places.subset (List.mem_map_of_mem hx)
      simp at hmem
      omega
    have hy' : 300 ≤ y.1 := by
      rcases List.mem_append.1 hy with h | h
      · have hmem := plan.late_places.subset (List.mem_map_of_mem h)
        simp at hmem
        omega
      · exact hadded y h
    simpa using Int.le_trans hx' hy'

/-- The stage for the security context, sorted into form login and what stands at other places. -/
theorem exists_behind (context : Stage σ) (plan : Plan σ) (rest : List (Int × Stage σ)) :
    ∃ front between back : List (Int × Stage σ),
      (((Blueprint.contextPlace, context) :: (plan.login ++ rest)).mergeSort fun x y => x.1 ≤ y.1) =
        front ++ (Blueprint.contextPlace, context) :: (between ++ (plan.login ++ back)) ∧
      (∀ entry ∈ front, entry ∈ rest ∧ entry.1 < Blueprint.contextPlace) ∧
      (∀ entry ∈ between, plan.formLogin.isSome = true ∧ entry ∈ rest ∧ Blueprint.contextPlace ≤ entry.1 ∧
        entry.1 < Blueprint.formLoginPlace) ∧
      ∀ entry ∈ back, entry ∈ rest := by
  obtain ⟨front, behind, hsorted, hrest, hfront⟩ := List.mergeSort_cons places_trans places_total
    (Blueprint.contextPlace, context) (plan.login ++ rest)
  have hplace : ∀ entry ∈ front, entry.1 < Blueprint.contextPlace := fun entry hentry => by
    simpa using hfront entry hentry
  cases hform : plan.formLogin with
  | none =>
    have hlogin : plan.login = [] := by simp [login, hform]
    rw [hlogin, List.nil_append] at hrest
    have hmem : ∀ entry ∈ front ++ behind, entry ∈ rest := fun entry hentry => by
      rwa [← hrest, List.mem_mergeSort] at hentry
    rw [List.forall_mem_append] at hmem
    refine ⟨front, [], behind, ?_, fun e he => ⟨hmem.1 e he, hplace e he⟩, nofun, hmem.2⟩
    simpa [hlogin] using hsorted
  | some f =>
    have hlogin : plan.login = [(Blueprint.formLoginPlace, .formLogin f.1 f.2)] := by simp [login, hform]
    obtain ⟨less, back, hback, hless, hplace'⟩ := List.mergeSort_cons places_trans places_total
      (Blueprint.formLoginPlace, (.formLogin f.1 f.2 : Stage σ)) rest
    have hmem : ∀ entry ∈ less ++ back, entry ∈ rest := fun entry hentry => by
      rwa [← hless, List.mem_mergeSort] at hentry
    have hx : (Blueprint.formLoginPlace, .formLogin f.1 f.2) ∉ front := fun hx => by
      have hlt := hplace _ hx
      simp [Blueprint.formLoginPlace, Blueprint.contextPlace] at hlt
    rw [hlogin, List.singleton_append] at hrest
    obtain ⟨between, rfl, rfl⟩ := exists_between (hrest.symm.trans hback) hx
    rw [List.forall_mem_append, List.forall_mem_append] at hmem
    refine ⟨front, between, back, ?_, fun e he => ⟨hmem.1.1 e he, hplace e he⟩, fun e he => ?_, hmem.2⟩
    · rwa [hlogin] at hsorted ⊢
    have hordered := List.pairwise_mergeSort places_trans places_total
      ((Blueprint.contextPlace, context) :: (plan.login ++ rest))
    rw [hsorted] at hordered
    have hle := (List.pairwise_cons.1 (List.pairwise_append.1 hordered).2.1).1 e (List.mem_append_left _ he)
    have hlt := hplace' e (List.mem_append_right _ he)
    exact ⟨rfl, hmem.1.2 e he, by simpa using hle, by simpa using hlt⟩

/-- Wherever stages of the host stand, the stage for the security context and form login part them into those in front
of both, those between the two and those behind. -/
theorem exists_layers (plan : Plan σ) {c : Bool × Repository σ} (hc : plan.context = some c)
    (added : List (Int × Stage σ)) : ∃ front between back : List (Int × Stage σ),
      ((plan.placed ++ added).mergeSort fun x y => x.1 ≤ y.1) =
        front ++ (Blueprint.contextPlace, contextStage c) :: (between ++ (plan.login ++ back)) ∧
      (∀ entry ∈ front, entry ∈ plan.outer ∨ entry ∈ added) ∧
      (∀ entry ∈ between, plan.formLogin.isSome = true ∧ entry ∈ added ∧ Blueprint.contextPlace ≤ entry.1 ∧
        entry.1 < Blueprint.formLoginPlace) ∧
      ∀ entry ∈ back, entry ∈ plan.late ∨ entry ∈ added := by
  obtain ⟨front, between, back, hsorted, hfront, hbetween, hback⟩ :=
    exists_behind (contextStage c) plan (plan.late ++ added)
  have houter : ∀ entry ∈ plan.outer, decide (entry.1 ≤ Blueprint.contextPlace) = true := fun entry hentry => by
    have hmem := plan.outer_places.subset (List.mem_map_of_mem hentry)
    simp at hmem
    have hle : entry.1 ≤ 200 := by omega
    exact decide_eq_true hle
  have hlate : ∀ entry ∈ plan.late ++ added, entry.1 < Blueprint.formLoginPlace → entry ∈ added := by
    intro entry hentry hlt
    refine (List.mem_append.1 hentry).resolve_left fun hlate => ?_
    have hmem := plan.late_places.subset (List.mem_map_of_mem hlate)
    simp at hmem
    simp [Blueprint.formLoginPlace] at hlt
    omega
  obtain ⟨front', hsorted', hfront'⟩ := exists_mergeSort_append places_trans places_total hsorted houter
  have hplaced : plan.placed ++ added =
      plan.outer ++ ((Blueprint.contextPlace, contextStage c) :: (plan.login ++ (plan.late ++ added))) := by
    simp [placed, inner, login, late, hc]
  refine ⟨front', between, back, by rw [hplaced, hsorted'], fun e he => (hfront' e he).imp_right fun h => ?_,
    fun e he => ?_, fun e he => List.mem_append.1 (hback e he)⟩
  · exact hlate e (hfront e h).1 (Int.lt_trans (hfront e h).2 (by decide))
  · obtain ⟨hsome, hmem, hle, hlt⟩ := hbetween e he
    exact ⟨hsome, hlate e hmem hlt, hle, hlt⟩

/-! ## Which stages there are -/

theorem stages_eq (plan : Plan σ) :
    plan.stages = (if plan.tracing then [.tracing] else []) ++ ((if plan.metrics then [.metrics] else []) ++
      (plan.cors.toList.map (fun c => .cors c.1 c.2) ++ (plan.context.toList.map contextStage ++
        (plan.formLogin.toList.map (fun f => .formLogin f.1 f.2) ++
          (plan.httpBasic.toList.map (fun h => .httpBasic h.1 h.2) ++ ((if plan.anonymous then [.anonymous] else []) ++
            plan.authorization.toList.map fun a => .authorization a.1 a.2)))))) := by
  have hbool (b : Bool) (place : Int) (stage : Stage σ) :
      (if b then [(place, stage)] else []).map (·.2) = if b then [stage] else [] := by
    cases b <;> rfl
  have hoption {α : Type} (o : Option α) (place : Int) (stage : α → Stage σ) :
      (o.toList.map fun a => (place, stage a)).map (·.2) = o.toList.map stage := by
    cases o <;> rfl
  simp only [stages, placed, outer, inner, List.map_append, hbool, hoption, List.append_assoc]

theorem mem_stages {plan : Plan σ} {stage : Stage σ} :
    stage ∈ plan.stages ↔ (plan.tracing = true ∧ stage = .tracing) ∨ (plan.metrics = true ∧ stage = .metrics) ∨
      (∃ c, plan.cors = some c ∧ stage = .cors c.1 c.2) ∨ (∃ c, plan.context = some c ∧ stage = contextStage c) ∨
      (∃ f, plan.formLogin = some f ∧ stage = .formLogin f.1 f.2) ∨
      (∃ h, plan.httpBasic = some h ∧ stage = .httpBasic h.1 h.2) ∨ (plan.anonymous = true ∧ stage = .anonymous) ∨
      (∃ a, plan.authorization = some a ∧ stage = .authorization a.1 a.2) := by
  simp only [stages_eq, List.mem_append, List.mem_map, Option.mem_toList, List.mem_ite_nil_right,
    List.mem_singleton, eq_comm (a := stage)]

section

variable {plan : Plan σ}

theorem eq_contextStage_iff {stage : Stage σ} {c : Bool × Repository σ} :
    stage = contextStage c ↔ c.1 = true ∧ stage = .explicitSave c.2 ∨ c.1 = false ∧ stage = .autoSave c.2 := by
  rcases c with ⟨_ | _, r⟩ <;> simp [contextStage]

theorem cors_mem_stages {source : Cors.Source} {reject : RejectPolicy} :
    .cors source reject ∈ plan.stages ↔ plan.cors = some (source, reject) := by
  simp [mem_stages, eq_contextStage_iff]

theorem autoSave_mem_stages {repository : Repository σ} :
    .autoSave repository ∈ plan.stages ↔ plan.context = some (false, repository) := by
  simp [mem_stages, eq_contextStage_iff]

theorem formLogin_mem_stages {form : FormLogin} {users : Users} :
    .formLogin form users ∈ plan.stages ↔ plan.formLogin = some (form, users) := by
  simp [mem_stages, eq_contextStage_iff]

theorem httpBasic_mem_stages {realm : String} {users : Users} :
    .httpBasic realm users ∈ plan.stages ↔ plan.httpBasic = some (realm, users) := by
  simp [mem_stages, eq_contextStage_iff]

theorem authorization_mem_stages {rules : List Rule} {entry : EntryPoint} :
    .authorization rules entry ∈ plan.stages ↔ plan.authorization = some (rules, entry) := by
  simp [mem_stages, eq_contextStage_iff]

end

end Plan

namespace Blueprint

variable {σ : Type}

/-- The host has added no stages, and wraps none. -/
structure Plain (b : Blueprint σ) : Prop where
  added : b.added = []
  wrappers : b.wrappers = []

/-- Looks up what the blueprint refers to. -/
def plan (b : Blueprint σ) (shared : Shared σ) : Except SetupError (Plan σ) := do
  let cors ← (b.cors.filter (!·.disabled)).mapM fun c => do return (← corsSource c shared, c.reject)
  let formLogin ← b.formLogin.mapM fun form => do return (form, ← usersFor shared "form_login")
  let httpBasic ← b.httpBasic.mapM fun realm => do return (realm, ← usersFor shared "http_basic")
  let authorization ← b.rules.mapM fun rules => do return (← rules.mapM readRule, b.entryPoint)
  return {
    tracing := b.tracing, metrics := b.metrics, cors
    context := if b.context.disabled then none else
      some (b.context.explicitSave, b.context.repository.getD (defaultRepository b.session.policy shared.store))
    formLogin, httpBasic, anonymous := b.anonymous, authorization }

theorem corsStage_eq (b : Blueprint σ) (shared : Shared σ) :
    b.corsStage shared = (fun o => o.toList.map fun c => (corsPlace, .cors c.1 c.2)) <$>
      (b.cors.filter (!·.disabled)).mapM fun c => do return (← corsSource c shared, c.reject) := by
  rw [corsStage]
  cases b.cors.filter (!·.disabled) with
  | none => rfl
  | some c => cases h : corsSource c shared <;> simp [h]

theorem loginStages_eq (b : Blueprint σ) (shared : Shared σ) :
    b.loginStages shared = do
      let form ← b.formLogin.mapM fun form => do return (form, ← usersFor shared "form_login")
      let basic ← b.httpBasic.mapM fun realm => do return (realm, ← usersFor shared "http_basic")
      return (form.toList.map fun f => (formLoginPlace, .formLogin f.1 f.2)) ++
        (basic.toList.map fun h => (httpBasicPlace, .httpBasic h.1 h.2)) := by
  rw [loginStages, usersFor, usersFor]
  cases shared.users <;> cases b.formLogin <;> cases b.httpBasic <;> rfl

theorem authorizationStage_eq (b : Blueprint σ) :
    b.authorizationStage = (fun o => o.toList.map fun a => (authorizationPlace, .authorization a.1 a.2)) <$>
      b.rules.mapM fun rules => do return (← rules.mapM readRule, b.entryPoint) := by
  rw [authorizationStage]
  cases b.rules with
  | none => rfl
  | some rules => cases h : rules.mapM readRule <;> simp [h]

theorem contextStage_eq (b : Blueprint σ) (shared : Shared σ) :
    b.contextStage shared = ((if b.context.disabled then none else
      some (b.context.explicitSave, b.context.repository.getD (defaultRepository b.session.policy shared.store))
        : Option (Bool × Repository σ)).toList.map fun c => (contextPlace, Plan.contextStage c)) := by
  rw [contextStage]
  cases b.context.disabled
  · cases b.context.explicitSave <;> simp [Plan.contextStage]
  · simp

theorem ownStages_eq (b : Blueprint σ) (shared : Shared σ) :
    b.ownStages shared = Plan.placed <$> b.plan shared := by
  simp only [ownStages, corsStage_eq, loginStages_eq, authorizationStage_eq, contextStage_eq, plan, map_eq_pure_bind,
    bind_assoc, pure_bind]
  simp only [Plan.placed, Plan.outer, Plan.inner, List.append_assoc]

/-- The chain of a plain blueprint consists of the stages of its plan. -/
theorem build_eq {b : Blueprint σ} (hb : b.Plain) (shared : Shared σ) :
    b.build shared = do
      let matcher ← PathPattern.ofSetting b.matcher
      let plan ← b.plan shared
      return ⟨matcher, plan.stages, b.session.cookieName⟩ := by
  have hwrap (stage : Stage σ) : b.wrapStage stage = stage := by simp [wrapStage, hb.wrappers]
  simp only [build, ownStages_eq, hb.added, List.append_nil, hwrap, map_eq_pure_bind, bind_assoc, pure_bind,
    Plan.sort_placed, Plan.stages]

/-- The stages of the plan and those of the host in order, with their places. -/
def sorted (b : Blueprint σ) (plan : Plan σ) : List (Int × Stage σ) :=
  (plan.placed ++ b.added).mergeSort fun x y => x.1 ≤ y.1

/-- A chain is built by sorting the stages of its plan and those of the host. -/
theorem build_sorted (b : Blueprint σ) (shared : Shared σ) :
    b.build shared = do
      let matcher ← PathPattern.ofSetting b.matcher
      let plan ← b.plan shared
      return ⟨matcher, (b.sorted plan).map (b.wrapStage ·.2), b.session.cookieName⟩ := by
  simp only [build, ownStages_eq, map_eq_pure_bind, bind_assoc, pure_bind]
  rfl

theorem exists_plan_sorted {b : Blueprint σ} {shared : Shared σ} {c : Chain σ} (h : b.build shared = .ok c) :
    ∃ matcher plan, PathPattern.ofSetting b.matcher = .ok matcher ∧ b.plan shared = .ok plan ∧
      c = ⟨matcher, (b.sorted plan).map (b.wrapStage ·.2), b.session.cookieName⟩ := by
  rw [build_sorted] at h
  obtain ⟨matcher, hmatcher, h⟩ := Steps.bind_eq_ok_iff.1 h
  obtain ⟨plan, hplan, h⟩ := Steps.bind_eq_ok_iff.1 h
  cases h
  exact ⟨matcher, plan, hmatcher, hplan, rfl⟩

/-- What a build that succeeds has made. -/
theorem exists_plan {b : Blueprint σ} (hb : b.Plain) {shared : Shared σ} {c : Chain σ} (h : b.build shared = .ok c) :
    ∃ plan, b.plan shared = .ok plan ∧ c.stages = plan.stages ∧ c.cookieName = b.session.cookieName := by
  rw [build_eq hb] at h
  cases hmatcher : PathPattern.ofSetting b.matcher with
  | error e => rw [hmatcher] at h; cases h
  | ok matcher =>
    cases hplan : b.plan shared with
    | error e => rw [hmatcher, hplan] at h; cases h
    | ok plan => rw [hmatcher, hplan] at h; cases h; exact ⟨plan, rfl, rfl, rfl⟩

/-- The host wraps no stages, and lets none of its own stand before form login. -/
structure PlainToLogin (b : Blueprint σ) : Prop where
  added : ∀ entry ∈ b.added, formLoginPlace ≤ entry.1
  wrappers : b.wrappers = []

theorem Plain.toLogin {b : Blueprint σ} (h : b.Plain) : b.PlainToLogin :=
  ⟨by simp [h.added], h.wrappers⟩

/-- Up to form login, the stages of such a chain are those of a plan. -/
theorem exists_plan_toLogin {b : Blueprint σ} (hb : b.PlainToLogin) {shared : Shared σ} {c : Chain σ}
    (h : b.build shared = .ok c) :
    ∃ plan rest, b.plan shared = .ok plan ∧ c.stages = plan.early.map (·.2) ++ rest := by
  obtain ⟨matcher, -, h⟩ := Steps.bind_eq_ok_iff.1 h
  obtain ⟨own, hown, h⟩ := Steps.bind_eq_ok_iff.1 h
  cases h
  rw [ownStages_eq] at hown
  obtain ⟨plan, hplan, rfl⟩ := Steps.map_eq_ok_iff.1 hown
  have hwrap (stage : Stage σ) : b.wrapStage stage = stage := by simp [wrapStage, hb.wrappers]
  refine ⟨plan, ((plan.late ++ b.added).mergeSort fun x y => x.1 ≤ y.1).map (·.2), hplan, ?_⟩
  simp only [hwrap, plan.sort_placed_append hb.added, List.map_append]

end Blueprint

/-- The chain has been built from a plain blueprint. -/
def Chain.IsPlain {σ : Type} (c : Chain σ) : Prop :=
  ∃ (b : Blueprint σ) (shared : Shared σ), b.Plain ∧ b.build shared = .ok c

end Portcullis
