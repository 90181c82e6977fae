import Portcullis.Guard.Blueprint

/-!
# Chains

A chain is a list of stages for the paths of one pattern. `Blueprint.build` makes it from what was asked for: every
stage has its place in the order, stages of the host come after the library's own at the same place, and in the order
in which they were added.
-/

namespace Portcullis

/-- What the chains of one guard share. -/
structure Shared (σ : Type) where
  store : Store σ
  /-- Policies for requests from other origins. -/
  source : Option Cors.Source := none
  /-- Policies that the routes of the host bring along. -/
  routes : Option Cors.RouteTable := none
  users : Option Users := none

/-- Are there policies for requests from other origins? -/
def Shared.hasPolicies {σ : Type} (s : Shared σ) : Bool :=
  s.source.isSome || s.routes.isSome

/-- Stages for the paths of a pattern. -/
structure Chain (σ : Type) where
  matcher : PathPattern
  stages : List (Stage σ)
  cookieName : String

/-- The names of the stages. -/
def Chain.stageNames {σ : Type} (c : Chain σ) : List String :=
  c.stages.map Stage.name

namespace Blueprint

variable {σ : Type}

/-! ## Places in the order -/

/-- Where the stage that notes requests in the log stands. -/
def tracingPlace : Int := 0
/-- Where the stage that counts stands. -/
def metricsPlace : Int := 50
/-- Where the stage for other origins stands. -/
def corsPlace : Int := 100
/-- Where the stage for the security context stands. -/
def contextPlace : Int := 200
/-- Where form login stands. -/
def formLoginPlace : Int := 300
/-- Where basic authentication stands. -/
def httpBasicPlace : Int := 400
/-- Where the stage that names nobody as anonymous stands. -/
def anonymousPlace : Int := 500
/-- Where authorization stands. -/
def authorizationPlace : Int := 600

/-! ## The library's own stages -/

/-- Where policies are looked up: in the source of the chain, or in what the chains share. -/
def corsSource (c : CorsSettings) (shared : Shared σ) : Except SetupError Cors.Source :=
  match c.source <|> shared.source <|> shared.routes.map .routes with
  | some source => .ok source
  | none => .error .missingPolicies

/-- The repository that a session policy calls for. -/
def defaultRepository (policy : SessionPolicy) (store : Store σ) : Repository σ :=
  match policy with
  | .stateless => .none
  | policy => .inSession store (policy != .never) (policy == .always)

/-- The accounts that a stage checks credentials against. -/
def usersFor (shared : Shared σ) (stage : String) : Except SetupError Users :=
  match shared.users with
  | some users => .ok users
  | none => .error (.missingUsers stage)

/-- How clients that have not authenticated are sent off: to the login page if there is one, else with a challenge if
that is of use. -/
def entryPoint (b : Blueprint σ) : EntryPoint :=
  match b.formLogin, b.httpBasic with
  | some form, _ => .loginPage form.page
  | none, some realm => .basicChallenge realm
  | none, none => .forbidden

/-- Reads the pattern of a rule. -/
def readRule (r : RuleDraft) : Except SetupError Rule := do
  return ⟨← PathPattern.ofSetting r.pattern, r.methods, r.access⟩

/-- The stage for other origins, if it is wanted. -/
def corsStage (b : Blueprint σ) (shared : Shared σ) : Except SetupError (List (Int × Stage σ)) :=
  match b.cors.filter (!·.disabled) with
  | some c => do return [(corsPlace, .cors (← corsSource c shared) c.reject)]
  | none => return []

/-- The stage for the security context, unless it is disabled. -/
def contextStage (b : Blueprint σ) (shared : Shared σ) : List (Int × Stage σ) :=
  if b.context.disabled then []
  else
    let repository := b.context.repository.getD (defaultRepository b.session.policy shared.store)
    [(contextPlace, if b.context.explicitSave then .explicitSave repository else .autoSave repository)]

/-- The stages that check credentials. -/
def loginStages (b : Blueprint σ) (shared : Shared σ) : Except SetupError (List (Int × Stage σ)) := do
  let form ← match b.formLogin with
    | some form => do pure [(formLoginPlace, .formLogin form (← usersFor shared "form_login"))]
    | none => pure []
  let basic ← match b.httpBasic with
    | some realm => do pure [(httpBasicPlace, .httpBasic realm (← usersFor shared "http_basic"))]
    | none => pure []
  return form ++ basic

/-- The stage for the rules, if there are any. -/
def authorizationStage (b : Blueprint σ) : Except SetupError (List (Int × Stage σ)) :=
  match b.rules with
  | some rules => do return [(authorizationPlace, .authorization (← rules.mapM readRule) b.entryPoint)]
  | none => return []

/-- The library's own stages, in order. -/
def ownStages (b : Blueprint σ) (shared : Shared σ) : Except SetupError (List (Int × Stage σ)) := do
  let cors ← b.corsStage shared
  let logins ← b.loginStages shared
  let authorization ← b.authorizationStage
  return (if b.tracing then [(tracingPlace, .tracing)] else []) ++
    (if b.metrics then [(metricsPlace, .metrics)] else []) ++ cors ++ b.contextStage shared ++ logins ++
    (if b.anonymous then [(anonymousPlace, .anonymous)] else []) ++ authorization

/-- Applies all wrappers to a stage, the first one first. -/
def wrapStage (b : Blueprint σ) (stage : Stage σ) : Stage σ :=
  b.wrappers.foldl (fun s wrapper => wrapper s) stage

/-- Builds the chain. -/
def build (b : Blueprint σ) (shared : Shared σ) : Except SetupError (Chain σ) := do
  let matcher ← PathPattern.ofSetting b.matcher
  let own ← b.ownStages shared
  let ordered := (own ++ b.added).mergeSort fun x y => x.1 ≤ y.1
  return ⟨matcher, ordered.map fun entry => b.wrapStage entry.2, b.session.cookieName⟩

end Blueprint

end Portcullis
