import Portcullis.PathPattern

/-!
# Setup errors

Why a configuration cannot be set up, and what is said about it.
-/

namespace Portcullis

/-- Why a configuration cannot be set up. -/
inductive SetupError
  /-- Cross-origin checks are wanted, but nothing says which policies hold. -/
  | missingPolicies
  /-- A policy allows credentials to every origin. -/
  | wildcardWithCredentials
  /-- A policy allows credentials to no origin at all. -/
  | noOriginsWithCredentials
  /-- The text is no origin. -/
  | invalidOrigin (origin : String)
  /-- The text is no request method. -/
  | invalidMethod (name : String)
  /-- The text is no path pattern. -/
  | invalidPathPattern (pattern : String) (fault : PathPattern.Fault)
  /-- The text is no access expression. -/
  | invalidAccess (expression : String)
  /-- A stage checks credentials, but there are no accounts. -/
  | missingUsers (stage : String)
  deriving DecidableEq, Repr

namespace SetupError

/-- What is said about the error. -/
def message : SetupError → String
  | .missingPolicies =>
    "CORS configuration error: CORS is enabled but no CorsConfigurationSource is available. " ++
    "Please ensure a CorsConfigurationSource is registered, or that the security pipeline and " ++
    "the dispatch layer are configured in a shared context."
  | .wildcardWithCredentials =>
    "CORS configuration error: Cannot use wildcard origin (*) with credentials. " ++
    "When allow_credentials is true, you must specify exact origins or origin patterns."
  | .noOriginsWithCredentials =>
    "CORS configuration error: Cannot use credentials with empty origins list. " ++
    "When allow_credentials is true, at least one origin must be specified."
  | .invalidOrigin origin =>
    "CORS configuration error: Invalid origin format '" ++ origin ++ "'. " ++
    "Expected format: scheme://host:port (e.g., https://example.com)"
  | .invalidMethod name => "Configuration error: '" ++ name ++ "' is not a valid HTTP method"
  | .invalidPathPattern pattern fault =>
    "Configuration error: Invalid path pattern '" ++ pattern ++ "': " ++ fault.message
  | .invalidAccess expression =>
    "Configuration error: Invalid access expression '" ++ expression ++ "'. Expected one of " ++
    "permit_all, deny_all, authenticated, anonymous, has_role(R), has_any_role(R1, R2), has_authority(A)"
  | .missingUsers stage =>
    "Configuration error: " ++ stage ++ " requires a UserDetailsService in the shared context"

end SetupError

/-- Reads a path pattern as part of a configuration. -/
def PathPattern.ofSetting (text : String) : Except SetupError PathPattern :=
  (PathPattern.parse text).mapError (.invalidPathPattern text)

end Portcullis
