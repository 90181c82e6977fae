import Portcullis.Guard.Basic
import Portcullis.Settings.Basic

/-!
# From settings to a guard

The settings of a chain say what the chain is built from: what its stages share (`Settings.shared`), and the directives
for its blueprint (`Settings.directives`).

* `Settings.guard`: the guard with the one chain.
-/

namespace Portcullis

namespace Settings

/-- The draft of a policy. -/
def PolicySection.draft (p : PolicySection) : Cors.Draft :=
  let d : Cors.Draft :=
    { origins := p.origins, exposed := p.exposed, credentials := p.credentials, maxAge := p.maxAge }
  { d with methods := p.methods.getD d.methods, headers := p.headers.getD d.headers }

/-- Policies by path, as a source; there is none without policies. -/
def CorsSection.source? (c : CorsSection) : Except SetupError (Option Cors.Source) :=
  if c.policies.isEmpty then .ok none
  else do
    let table ← c.policies.foldlM (fun (table : Cors.PathTable) (pattern, p) => do
      table.register pattern (← p.draft.build)) {}
    return some (.paths table)

/-- What a route says about its policy. -/
def RoutePolicySection.policy : RoutePolicySection → Cors.RoutePolicy
  | .inherit => .inherit
  | .disabled => .disabled
  | .own p => .own p.draft

/-- Adds a route. -/
def RouteSection.register (table : Cors.RouteTable) (r : RouteSection) : Except SetupError Cors.RouteTable := do
  table.register r.pattern (← r.methods.mapM Cors.readMethod) r.policy.policy

/-- The policies of all routes. -/
def DispatchSection.table (d : DispatchSection) : Except SetupError Cors.RouteTable := do
  d.routes.foldlM RouteSection.register { shared := ← d.shared.draft.build }

variable {σ : Type}

/-- What the stages of the chain share. -/
def shared (s : Settings) (store : Store σ) : Except SetupError (Shared σ) := do
  let source ← match s.cors with
    | some c => c.source?
    | none => pure none
  let routes ← s.dispatch.mapM (·.table)
  return { store, source, routes, users := if s.users.isEmpty then none else some ⟨s.users⟩ }

/-- Directives about other origins. -/
def CorsSection.directive (c : CorsSection) : Directive σ :=
  .cors none (some c.reject) !c.enabled

/-- The directive about the security context. -/
def ContextSection.directive (c : ContextSection) : Directive σ :=
  .context (if c.repository = .stateless then some .none else none) (some c.explicitSave) !c.enabled

/-- A rule with its methods read. -/
def RuleSection.draft (r : RuleSection) : Except SetupError RuleDraft := do
  return ⟨r.pattern, ← r.methods.mapM Cors.readMethod, r.access⟩

/-- What the settings ask for. -/
def directives (s : Settings) : Except SetupError (List (Directive σ)) := do
  let rules ← s.rules.mapM RuleSection.draft
  return [.matcher s.matcher] ++
    (if s.tracing then [.tracing] else []) ++
    s.cors.toList.map CorsSection.directive ++
    [s.context.directive, .session (some s.session.policy) s.session.cookieName] ++
    ((s.formLogin.filter (·.enabled)).toList.map fun f => .formLogin f.change) ++
    ((s.httpBasic.filter (·.enabled)).toList.map fun b => .httpBasic b.realm) ++
    (if s.anonymous then [] else [.anonymous true]) ++
    (if rules.isEmpty then [] else [.authorize rules])

/-- Builds the guard. -/
def guard (s : Settings) (store : Store σ) : Except SetupError (Guard σ) := do
  let shared ← s.shared store
  let directives ← s.directives
  return ⟨[← (Blueprint.ofDirectives directives).build shared]⟩

/-- How many milliseconds a session lives unused. -/
def timeout (s : Settings) : Nat :=
  s.session.timeout.getD 1800 * 1000

end Settings

end Portcullis
