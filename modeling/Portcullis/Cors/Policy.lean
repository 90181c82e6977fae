import Portcullis.Cors.Origins
import Portcullis.Http.Method

/-!
# Cross-origin policies

What requests from other origins may do. A policy is drafted field by field and then built; building refuses the
combinations that would hand credentials to everybody.
-/

namespace Portcullis.Cors

/-- What requests from other origins may do. -/
structure Policy where
  origins : Origins
  methods : List Method
  /-- The header names a request may carry; `*` stands for all. -/
  headers : List String
  /-- The header names of an answer that scripts may read. -/
  exposed : List String
  credentials : Bool
  /-- How many seconds a browser may remember the answer to a preflight. -/
  maxAge : Option Nat

namespace Policy

/-- Reading for everybody, without credentials. -/
def permitDefaults : Policy where
  origins := .any
  methods := [.get, .head, .post]
  headers := ["*"]
  exposed := []
  credentials := false
  maxAge := some 1800

/-- The origin to name in the answer, if the origin is allowed. -/
def originAnswer? (p : Policy) (origin : String) : Option String :=
  if p.origins.allows origin then some (if p.origins.isAny then "*" else origin) else none

/-- Is the method allowed? Who may `GET` may also `HEAD`. -/
def allowsMethod (p : Policy) (m : Method) : Bool :=
  p.methods.contains m || m = Method.head && p.methods.contains Method.get

/-- Are all header names allowed? -/
def allowsAllHeaders (p : Policy) : Bool :=
  p.headers.contains "*"

/-- The first header name of a list written with commas that is not allowed. -/
def firstRejected? (p : Policy) (requested : String) : Option String :=
  if p.allowsAllHeaders then none
  else (Text.commaTokens requested).find? fun name => !p.headers.any (Text.sameIgnoringCase · name)

end Policy

/-- A policy in the making. -/
structure Draft where
  origins : List String := []
  /-- A test that takes the place of the list of origins. -/
  test : Option (String → Bool) := none
  headers : List String := ["Content-Type", "Authorization"]
  /-- The names of the methods, in any case. -/
  methods : List String := ["GET", "POST", "PUT", "DELETE", "OPTIONS"]
  credentials : Bool := false
  exposed : List String := []
  maxAge : Option Nat := none

/-- Reads a method as part of a configuration. -/
def readMethod (name : String) : Except SetupError Method :=
  match Method.ofName? name with
  | some m => .ok m
  | none => .error (.invalidMethod name)

namespace Draft

/-- Why credentials may not go to these origins. -/
def credentialFault? : Origins → Option SetupError
  | .any => some .wildcardWithCredentials
  | .exact [] => some .noOriginsWithCredentials
  | _ => none

/-- Builds the policy for given origins. -/
def buildFor (d : Draft) (origins : Origins) : Except SetupError Policy :=
  match if d.credentials then credentialFault? origins else none with
  | some fault => .error fault
  | none => do
    let methods ← d.methods.mapM readMethod
    return {
      origins, methods, headers := d.headers, exposed := d.exposed, credentials := d.credentials, maxAge := d.maxAge }

/-- The origins that the draft names. -/
def readOrigins (d : Draft) : Except SetupError Origins :=
  match d.test with
  | some test => .ok (.custom test)
  | none => Origins.ofList d.origins

/-- Builds the policy. -/
def build (d : Draft) : Except SetupError Policy := do
  d.buildFor (← d.readOrigins)

end Draft

end Portcullis.Cors
