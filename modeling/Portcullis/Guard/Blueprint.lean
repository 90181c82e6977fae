import Portcullis.Pipeline.Stage

/-!
# Blueprints

What has been asked for a chain, directive by directive, before it is built. Directives of one kind refine what the
earlier ones of that kind have set; the order between kinds does not matter.
-/

namespace Portcullis

/-- When sessions are opened. -/
inductive SessionPolicy
  /-- For every request. -/
  | always
  /-- When there is something to keep. -/
  | ifRequired
  /-- Never; sessions that are there are used. -/
  | never
  /-- Never, and sessions are not used either. -/
  | stateless
  deriving DecidableEq, Repr

/-- The stage for requests from other origins, as asked for. -/
structure CorsSettings where
  disabled : Bool := false
  source : Option Cors.Source := none
  reject : RejectPolicy := .passThrough

/-- The stage for the security context, as asked for. -/
structure ContextSettings (σ : Type) where
  disabled : Bool := false
  repository : Option (Repository σ) := none
  explicitSave : Bool := false

/-- Sessions, as asked for. -/
structure SessionSettings where
  policy : SessionPolicy := .ifRequired
  cookieName : String := "SESSION"
  deriving DecidableEq, Repr

/-- A rule before its pattern has been read. -/
structure RuleDraft where
  pattern : String
  methods : List Method
  access : Access

/-- Everything that has been asked for. -/
structure Blueprint (σ : Type) where
  /-- Which paths the chain is for. -/
  matcher : String := "/**"
  tracing : Bool := false
  metrics : Bool := false
  cors : Option CorsSettings := none
  context : ContextSettings σ := {}
  session : SessionSettings := {}
  formLogin : Option FormLogin := none
  /-- The realm of basic authentication. -/
  httpBasic : Option String := none
  anonymous : Bool := true
  rules : Option (List RuleDraft) := none
  /-- Stages of the host, with their places in the order. -/
  added : List (Int × Stage σ) := []
  /-- What is done to every stage, one after the other. -/
  wrappers : List (Stage σ → Stage σ) := []

/-- Changes to the settings of a form login. -/
structure FormLoginChange where
  processingUrl : Option String := none
  page : Option String := none
  successUrl : Option String := none
  failureUrl : Option String := none
  usernameParameter : Option String := none
  passwordParameter : Option String := none
  servePage : Option Bool := none
  deriving DecidableEq, Repr

/-- Applies the changes. -/
def FormLoginChange.apply (c : FormLoginChange) (f : FormLogin) : FormLogin where
  processingUrl := c.processingUrl.getD f.processingUrl
  page := c.page.getD f.page
  successUrl := c.successUrl.getD f.successUrl
  failureUrl := c.failureUrl.getD f.failureUrl
  usernameParameter := c.usernameParameter.getD f.usernameParameter
  passwordParameter := c.passwordParameter.getD f.passwordParameter
  servePage := c.servePage.getD f.servePage

/-- One thing asked for. -/
inductive Directive (σ : Type)
  | matcher (pattern : String)
  | tracing
  | metrics
  | cors (source : Option Cors.Source) (reject : Option RejectPolicy) (disable : Bool)
  | context (repository : Option (Repository σ)) (explicitSave : Option Bool) (disable : Bool)
  | session (policy : Option SessionPolicy) (cookieName : Option String)
  | formLogin (change : FormLoginChange)
  | httpBasic (realm : Option String)
  | anonymous (disable : Bool)
  | authorize (rules : List RuleDraft)
  | add (stage : Stage σ) (order : Int)
  | wrap (wrapper : Stage σ → Stage σ)

namespace Blueprint

variable {σ : Type}

/-- Settings for other origins, changed. -/
def changeCors (c : CorsSettings) (source : Option Cors.Source) (reject : Option RejectPolicy) (disable : Bool) :
    CorsSettings where
  disabled := c.disabled || disable
  source := source <|> c.source
  reject := reject.getD c.reject

/-- Settings for the security context, changed. The first repository named is kept. -/
def changeContext (c : ContextSettings σ) (repository : Option (Repository σ)) (explicitSave : Option Bool)
    (disable : Bool) : ContextSettings σ where
  disabled := c.disabled || disable
  repository := c.repository <|> repository
  explicitSave := explicitSave.getD c.explicitSave

/-- Does one more thing that was asked for. -/
def follow (b : Blueprint σ) : Directive σ → Blueprint σ
  | .matcher pattern => { b with matcher := pattern }
  | .tracing => { b with tracing := true }
  | .metrics => { b with metrics := true }
  | .cors source reject disable => { b with cors := some (changeCors (b.cors.getD {}) source reject disable) }
  | .context repository explicitSave disable =>
    { b with context := changeContext b.context repository explicitSave disable }
  | .session policy cookieName =>
    { b with session := ⟨policy.getD b.session.policy, cookieName.getD b.session.cookieName⟩ }
  | .formLogin change => { b with formLogin := some (change.apply (b.formLogin.getD {})) }
  | .httpBasic realm => { b with httpBasic := some (realm.getD (b.httpBasic.getD "Realm")) }
  | .anonymous disable => { b with anonymous := b.anonymous && !disable }
  | .authorize rules => { b with rules := some (b.rules.getD [] ++ rules) }
  | .add stage order => { b with added := b.added ++ [(order, stage)] }
  | .wrap wrapper => { b with wrappers := b.wrappers ++ [wrapper] }

/-- The blueprint for a list of directives. -/
def ofDirectives (directives : List (Directive σ)) : Blueprint σ :=
  directives.foldl follow {}

end Blueprint

end Portcullis
