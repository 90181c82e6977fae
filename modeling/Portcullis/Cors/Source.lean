import Portcullis.Cors.Policy

/-!
# Where policies come from

Policies are registered by path (`PathTable`) or by route (`RouteTable`); a route may also name the methods that it
serves, and takes its origins from the policy for all routes. Either way the most specific pattern decides.
-/

namespace Portcullis.Cors

/-- Policies by path. -/
structure PathTable where
  entries : List (PathPattern × Policy) := []

namespace PathTable

/-- Replaces the policy under a pattern, or adds it at the end. -/
def put (pattern : PathPattern) (policy : Policy) : List (PathPattern × Policy) → List (PathPattern × Policy)
  | [] => [(pattern, policy)]
  | entry :: rest =>
    if entry.1.text = pattern.text then (entry.1, policy) :: rest else entry :: put pattern policy rest

/-- Registers a policy; one registered under the same pattern before is replaced. -/
def register (t : PathTable) (pattern : String) (policy : Policy) : Except SetupError PathTable := do
  return ⟨put (← PathPattern.ofSetting pattern) policy t.entries⟩

/-- The policy for a path. -/
def find? (t : PathTable) (path : String) : Option Policy :=
  (PathPattern.mostSpecific t.entries path).map (·.2)

end PathTable

/-- What a route says about its policy. -/
inductive RoutePolicy
  /-- The policy for all routes. -/
  | inherit
  /-- No policy. -/
  | disabled
  /-- A policy of its own, for the origins of all routes. -/
  | own (draft : Draft)

/-- A registered route. -/
structure Route where
  pattern : PathPattern
  /-- The methods it serves; all if none are named. -/
  methods : List Method
  policy : Option Policy

/-- Does the route serve the method? -/
def Route.serves (r : Route) (m : Method) : Bool :=
  r.methods.isEmpty || r.methods.contains m

/-- Policies by route. -/
structure RouteTable where
  /-- The policy for all routes. -/
  shared : Policy
  routes : List Route := []

namespace RouteTable

/-- The policy that a route says it has. -/
def policyOf (t : RouteTable) : RoutePolicy → Except SetupError (Option Policy)
  | .inherit => .ok (some t.shared)
  | .disabled => .ok none
  | .own draft => some <$> draft.buildFor t.shared.origins

/-- Registers a route. -/
def register (t : RouteTable) (pattern : String) (methods : List Method) (policy : RoutePolicy) :
    Except SetupError RouteTable := do
  let pattern ← PathPattern.ofSetting pattern
  let policy ← t.policyOf policy
  return { t with routes := t.routes ++ [⟨pattern, methods, policy⟩] }

/-- The policy for a method and a path. A route without a policy hides less specific ones. -/
def find? (t : RouteTable) (m : Method) (path : String) : Option Policy :=
  (PathPattern.mostSpecific ((t.routes.filter (·.serves m)).map fun r => (r.pattern, r.policy)) path).bind (·.2)

end RouteTable

/-- Where the policy for a request is looked up. -/
inductive Source
  | paths (table : PathTable)
  | routes (table : RouteTable)

/-- The policy for a method and a path. -/
def Source.find? : Source → Method → String → Option Policy
  | .paths table, _, path => table.find? path
  | .routes table, m, path => table.find? m path

end Portcullis.Cors
