import Portcullis.Pipeline.HttpBasic
import Portcullis.Security.Access

/-!
# Authorization

Rules are tried in order, and the first that covers the request decides. A request that no rule covers passes.
-/

namespace Portcullis

/-- What is demanded of the requests that a rule covers. -/
structure Rule where
  pattern : PathPattern
  /-- The methods it covers; all if none are named. -/
  methods : List Method
  access : Access

/-- Does the rule cover a request? -/
def Rule.covers (rule : Rule) (m : Method) (path : String) : Bool :=
  (rule.methods.isEmpty || rule.methods.contains m) && rule.pattern.covers path

/-- How a client that has not authenticated is sent off. -/
inductive EntryPoint
  | loginPage (page : String)
  | basicChallenge (realm : String)
  | forbidden
  deriving DecidableEq, Repr

/-- The answer to a client whose requests are not allowed. -/
def accessDenied : Response :=
  .error 403 "Access Denied"

/-- The answer to a client that has not authenticated. -/
def EntryPoint.response : EntryPoint → Response
  | .loginPage page => .redirect page
  | .basicChallenge realm => HttpBasic.challenge realm
  | .forbidden => accessDenied

namespace Authorization

/-- The rule that decides about a request. -/
def rule? (rules : List Rule) (r : Request) : Option Rule :=
  rules.find? (·.covers r.method r.path)

/-- Does the rule that decides, if there is one, let the context pass? -/
def grants (rules : List Rule) (r : Request) (context : SecurityContext) : Bool :=
  (rule? rules r).all (·.access.granted context.authentication)

/-- The stage. -/
def run {σ : Type} (rules : List Rule) (entry : EntryPoint) (rest : Ahead σ) : Flow σ Response := do
  let e ← Flow.exchange
  if grants rules e.request e.context then rest.run
  else if e.context.isAuthenticated then return accessDenied
  else return entry.response

end Authorization

end Portcullis
