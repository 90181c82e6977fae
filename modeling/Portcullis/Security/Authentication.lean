/-!
# Authentications and security contexts

Who a request speaks for, and the context that carries it along the pipeline and across requests.

* `Authentication.hasRole_iff`: a role is named with or without its `ROLE_` mark.
-/

namespace Portcullis

/-- How an authentication came about. -/
inductive AuthenticationKind
  | formLogin
  | httpBasic
  | anonymous
  | preAuthenticated
  deriving DecidableEq, Repr

/-- The name under which a kind is written. -/
def AuthenticationKind.name : AuthenticationKind → String
  | .formLogin => "form_login"
  | .httpBasic => "http_basic"
  | .anonymous => "anonymous"
  | .preAuthenticated => "pre_authenticated"

/-- All kinds, in the order in which messages list them. -/
def AuthenticationKind.all : List AuthenticationKind :=
  [.formLogin, .httpBasic, .anonymous, .preAuthenticated]

/-- The start of an authority that stands for a role. -/
def roleMark : List Char :=
  "ROLE_".toList

/-- The authority that stands for a role: the role itself where it carries the mark already. -/
def roleAuthority (role : String) : String :=
  if roleMark.isPrefixOf role.toList then role else "ROLE_" ++ role

/-- Who a request speaks for, and with what authorities. -/
structure Authentication where
  principal : String
  authorities : List String
  authenticated : Bool
  kind : AuthenticationKind
  deriving DecidableEq, Repr

namespace Authentication

/-- What a request speaks for when nobody has been named. -/
def anonymous : Authentication where
  principal := "anonymousUser"
  authorities := ["ROLE_ANONYMOUS"]
  authenticated := true
  kind := .anonymous

/-- Is this the anonymous authentication's kind? -/
def isAnonymous (a : Authentication) : Bool :=
  a.kind = .anonymous

/-- It names somebody who has been authenticated. -/
def isReal (a : Authentication) : Bool :=
  a.authenticated && !a.isAnonymous

/-- The authority is among those granted. -/
def hasAuthority (a : Authentication) (authority : String) : Bool :=
  a.authorities.contains authority

/-- The role is among those granted; it may be named with or without its mark. -/
def hasRole (a : Authentication) (role : String) : Bool :=
  if roleMark.isPrefixOf role.toList then a.hasAuthority role
  else a.authorities.any fun authority => authority.toList = roleMark ++ role.toList

/-- To have a role is to have the authority that stands for it. -/
theorem hasRole_iff (a : Authentication) (role : String) :
    a.hasRole role = true ↔ roleAuthority role ∈ a.authorities := by
  unfold hasRole roleAuthority hasAuthority
  split
  · simp
  · have key (authority : String) : authority.toList = roleMark ++ role.toList ↔ authority = "ROLE_" ++ role := by
      rw [← String.toList_inj, String.toList_append]
      rfl
    simp only [List.any_eq_true, decide_eq_true_eq, key]
    simp

end Authentication

/-- What a request carries along: an authentication, or none yet. -/
structure SecurityContext where
  authentication : Option Authentication := none
  deriving DecidableEq, Repr, Inhabited

namespace SecurityContext

/-- The context of a request about which nothing is known. -/
def empty : SecurityContext := ⟨none⟩

/-- The context holds no authentication. -/
def isEmpty (c : SecurityContext) : Bool :=
  c.authentication.isNone

/-- Somebody is named, and has been authenticated. -/
def isAuthenticated (c : SecurityContext) : Bool :=
  c.authentication.any Authentication.isReal

/-- The context is worth keeping for later requests: it names somebody, authenticated or not. -/
def isPersistable (c : SecurityContext) : Bool :=
  c.authentication.any fun a => !a.isAnonymous

end SecurityContext

end Portcullis
