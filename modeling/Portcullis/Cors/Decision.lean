import Portcullis.Cors.Source
import Portcullis.Http.Request

/-!
# Cross-origin decisions

What becomes of a request that names an origin. A browser first asks (a preflight) and then sends the actual request;
both are decided by the policy for the path and for the method that is announced or used.

* `decideActual`: an actual request.
* `decidePreflight`: a preflight.
* `decide`: any request; one from the same origin is none of the policies' business.
-/

namespace Portcullis.Cors

/-- Why a request is denied. -/
inductive DenyReason
  | origin
  | method
  | headers
  deriving DecidableEq, Repr

/-- What is said about a denial. -/
def DenyReason.message : DenyReason → String
  | .origin => "origin not allowed"
  | .method => "method not allowed"
  | .headers => "headers not allowed"

/-- What becomes of a request. -/
inductive Decision
  /-- It names no origin, or its own. -/
  | notCrossOrigin
  /-- No policy holds for it. -/
  | noPolicy
  /-- It is allowed, and the answer carries these headers. -/
  | allow (headers : Headers) (preflight : Bool)
  | deny (reason : DenyReason) (preflight : Bool)
  deriving DecidableEq, Repr

namespace Decision

/-- Is the request allowed? -/
def isAllowed : Decision → Bool
  | .allow .. => true
  | _ => false

/-- Is the request denied? -/
def isDenied : Decision → Bool
  | .deny .. => true
  | _ => false

end Decision

/-- The headers of every allowed answer. An answer that names an origin is for that origin only. -/
def commonHeaders (p : Policy) (answer : String) : Headers :=
  [("access-control-allow-origin", answer)] ++
    (if p.credentials then [("access-control-allow-credentials", "true")] else []) ++
    (if answer = "*" then [] else [("vary", "Origin")])

/-- Decides an actual request. -/
def decideActual (source : Source) (origin : Option String) (m : Method) (path : String) : Decision :=
  match origin with
  | none => .notCrossOrigin
  | some origin =>
    match source.find? m path with
    | none => .noPolicy
    | some policy =>
      match policy.originAnswer? origin with
      | none => .deny .origin false
      | some answer =>
        if !policy.allowsMethod m then .deny .method false
        else .allow (commonHeaders policy answer ++
          (if policy.exposed.isEmpty then []
            else [("access-control-expose-headers", String.intercalate ", " policy.exposed)])) false

/-- The header names that an answer to a preflight lists. Where all are allowed, those asked for are listed. -/
def headerAnswer (p : Policy) (requested : Option String) : String :=
  if p.allowsAllHeaders then requested.getD "*" else String.intercalate ", " p.headers

/-- The headers of the answer to an allowed preflight. -/
def preflightHeaders (p : Policy) (answer : String) (requested : Option String) : Headers :=
  commonHeaders p answer ++
    [("access-control-allow-methods", String.intercalate ", " (p.methods.map (·.name)))] ++
    (if headerAnswer p requested = "" then []
      else [("access-control-allow-headers", headerAnswer p requested)]) ++
    (match p.maxAge with
      | some seconds => [("access-control-max-age", Text.decimal seconds)]
      | none => [])

/-- Decides a preflight for a method and header names. -/
def decideAnnounced (source : Source) (origin : String) (m : Method) (path : String) (requested : Option String) :
    Decision :=
  match source.find? m path with
  | none => .noPolicy
  | some policy =>
    match policy.originAnswer? origin with
    | none => .deny .origin true
    | some answer =>
      if !policy.allowsMethod m then .deny .method true
      else if (requested.bind policy.firstRejected?).isSome then .deny .headers true
      else .allow (preflightHeaders policy answer requested) true

/-- Decides a preflight. -/
def decidePreflight (source : Source) (r : Request) (origin : String) : Decision :=
  match Method.parse? ((r.header? "access-control-request-method").getD "") with
  | none => .deny .method true
  | some m => decideAnnounced source origin m r.path (r.header? "access-control-request-headers")

/-- Does the origin name the very server that the request is sent to? -/
def isSameOrigin (r : Request) (origin : String) : Bool :=
  match r.header? "host", Url.parse? origin with
  | some host, some url => url.hasAuthority host
  | _, _ => false

/-- Decides a request. -/
def decide (source : Source) (r : Request) : Decision :=
  match r.origin? with
  | none => .notCrossOrigin
  | some origin =>
    if isSameOrigin r origin then .notCrossOrigin
    else if r.isPreflight then decidePreflight source r origin
    else decideActual source (some origin) r.method r.path

end Portcullis.Cors
