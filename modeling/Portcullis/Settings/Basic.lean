import Portcullis.Settings.Security

/-!
# Settings

All that a guard can be told in its settings, and how it is read. What is not set has a value of its own; fields that
no section has are refused.

* `Settings.read`: the settings of one guard.
-/

namespace Portcullis

namespace Settings

/-! ## Sections -/

/-- A policy for requests from other origins. -/
structure PolicySection where
  origins : List String := []
  methods : Option (List String) := none
  headers : Option (List String) := none
  exposed : List String := []
  credentials : Bool := false
  maxAge : Option Nat := none
  deriving DecidableEq, Repr

/-- Policies for requests from other origins, by path. -/
structure CorsSection where
  enabled : Bool
  reject : RejectPolicy
  policies : List (String × PolicySection)
  deriving DecidableEq, Repr

/-- The policy of a route. -/
inductive RoutePolicySection
  /-- The policy of all routes. -/
  | inherit
  | disabled
  | own (policy : PolicySection)
  deriving DecidableEq, Repr

/-- A route with its policy. -/
structure RouteSection where
  pattern : String
  methods : List String
  policy : RoutePolicySection
  deriving DecidableEq, Repr

/-- Policies of routes. -/
structure DispatchSection where
  shared : PolicySection
  routes : List RouteSection
  deriving DecidableEq, Repr

/-- Where security contexts are kept. -/
inductive RepositoryChoice
  | session
  | stateless
  deriving DecidableEq, Repr

/-- The security context. -/
structure ContextSection where
  enabled : Bool := true
  explicitSave : Bool := false
  repository : RepositoryChoice := .session
  deriving DecidableEq, Repr

/-- Sessions. -/
structure SessionSection where
  policy : SessionPolicy := .ifRequired
  cookieName : Option String := none
  /-- How many seconds a session lives unused. -/
  timeout : Option Nat := none
  deriving DecidableEq, Repr

/-- Form login. -/
structure FormLoginSection where
  enabled : Bool
  change : FormLoginChange
  deriving DecidableEq, Repr

/-- Basic authentication. -/
structure HttpBasicSection where
  enabled : Bool
  realm : Option String
  deriving DecidableEq, Repr

/-- A rule. -/
structure RuleSection where
  pattern : String
  methods : List String
  access : Access
  deriving DecidableEq, Repr

end Settings

/-- The settings of a guard with one chain. -/
structure Settings where
  matcher : String
  tracing : Bool
  cors : Option Settings.CorsSection
  dispatch : Option Settings.DispatchSection
  context : Settings.ContextSection
  session : Settings.SessionSection
  formLogin : Option Settings.FormLoginSection
  httpBasic : Option Settings.HttpBasicSection
  anonymous : Bool
  users : List User
  rules : List Settings.RuleSection
  deriving DecidableEq, Repr

namespace Settings

/-! ## Readers -/

variable {α : Type} [Tree α]

/-- Reads a policy. -/
def readPolicy : Reader α PolicySection :=
  Record.read "CorsSettings" true <|
    PolicySection.mk <$> .withDefault "allowed_origins" (list text) [] <*>
      .mayLack "allowed_methods" (list text) <*> .mayLack "allowed_headers" (list text) <*>
      .withDefault "expose_headers" (list text) [] <*> .withDefault "allow_credentials" flag false <*>
      .mayLack "max_age" (natural 32)

/-- Reads what is done with denied requests. -/
def readReject : Reader α RejectPolicy :=
  choice [("pass_through", .passThrough), ("forbid", .forbid)]

/-- Reads policies by path. -/
def readCors : Reader α CorsSection :=
  Record.read "CorsSection" true <|
    CorsSection.mk <$> .withDefault "enabled" flag true <*> .withDefault "reject" readReject .passThrough <*>
      .withDefault "configurations" (table readPolicy) []

/-- Reads the policy of a route: whether it has the one of all routes, in one of two spellings, or a policy. -/
def readRoutePolicy : Reader α RoutePolicySection :=
  firstForm "RouteCorsSetting" [
    fun x => (fun (b : Bool) => if b then .inherit else .disabled) <$> flag x,
    choice [("inherit", .inherit), ("disabled", .disabled)],
    fun x => .own <$> readPolicy x]

/-- Reads a route. -/
def readRoute : Reader α RouteSection :=
  Record.read "DispatchRoute" true <|
    RouteSection.mk <$> .required "pattern" text <*> .withDefault "methods" (list text) [] <*>
      .withDefault "cors" readRoutePolicy .inherit

/-- Reads policies of routes. -/
def readDispatch : Reader α DispatchSection :=
  Record.read "DispatchSection" true <|
    DispatchSection.mk <$> .required "global" readPolicy <*> .withDefault "routes" (list readRoute) []

/-- Reads where security contexts are kept. -/
def readRepository : Reader α RepositoryChoice :=
  choice [("session", .session), ("stateless", .stateless)]

/-- Reads the section of the security context. -/
def readContextSection : Reader α ContextSection :=
  Record.read "SecurityContextSection" true <|
    ContextSection.mk <$> .withDefault "enabled" flag true <*> .withDefault "require_explicit_save" flag false <*>
      .withDefault "repository" readRepository .session

/-- Reads the section of sessions. -/
def readSession : Reader α SessionSection :=
  Record.read "SessionSection" true <|
    SessionSection.mk <$> .withDefault "creation_policy" readSessionPolicy .ifRequired <*>
      .mayLack "cookie_name" text <*> .mayLack "max_inactive_secs" (natural 64)

/-- The section of form login, by its fields in order. -/
def formLoginSection (enabled : Bool) (page processingUrl successUrl failureUrl username password : Option String)
    (servePage : Option Bool) : FormLoginSection :=
  ⟨enabled, ⟨processingUrl, page, successUrl, failureUrl, username, password, servePage⟩⟩

/-- Reads the section of form login. -/
def readFormLogin : Reader α FormLoginSection :=
  Record.read "FormLoginSection" true <|
    formLoginSection <$> .withDefault "enabled" flag true <*> .mayLack "login_page" text <*>
      .mayLack "login_processing_url" text <*> .mayLack "default_success_url" text <*> .mayLack "failure_url" text <*>
      .mayLack "username_parameter" text <*> .mayLack "password_parameter" text <*> .mayLack "serve_login_page" flag

/-- Reads the section of basic authentication. -/
def readHttpBasic : Reader α HttpBasicSection :=
  Record.read "HttpBasicSection" true <|
    HttpBasicSection.mk <$> .withDefault "enabled" flag true <*> .mayLack "realm" text

/-- Reads whether nobody is named as anonymous. -/
def readAnonymous : Reader α Bool :=
  Record.read "AnonymousSection" true (.withDefault "enabled" flag true)

/-- Reads a rule. -/
def readRule : Reader α RuleSection :=
  Record.read "AuthorizeRule" true <|
    RuleSection.mk <$> .required "pattern" text <*> .withDefault "methods" (list text) [] <*>
      .required "access" readAccess

/-- Reads settings. -/
def read : Reader α Settings :=
  Record.read "GuardConfig" true <|
    Settings.mk <$> .withDefault "security_matcher" text "/**" <*> .withDefault "tracing" flag false <*>
      .withDefault "cors" (optional readCors) none <*> .withDefault "dispatch" (optional readDispatch) none <*>
      .withDefault "security_context" readContextSection {} <*> .withDefault "session" readSession {} <*>
      .withDefault "form_login" (optional readFormLogin) none <*>
      .withDefault "http_basic" (optional readHttpBasic) none <*> .withDefault "anonymous" readAnonymous true <*>
      .withDefault "users" (list readUser) [] <*> .withDefault "authorize" (list readRule) []

end Settings

end Portcullis
