import Portcullis.Codec.Base64
import Portcullis.Codec.Utf8
import Portcullis.Pipeline.Flow
import Portcullis.Security.Users

/-!
# Basic authentication

Credentials in an `authorization` header: a name and a password around a colon, in UTF-8 and base 64.
-/

namespace Portcullis.HttpBasic

/-- The challenge to a client that has to authenticate. -/
def challenge (realm : String) : Response :=
  (Response.error 401 "Unauthorized").setHeader "www-authenticate" ("Basic realm=\"" ++ realm ++ "\"")

/-- Does the header announce basic credentials? -/
def isAnnounced (header : String) : Bool :=
  "basic ".toList.isPrefixOf ((Text.trimStart header.toList).map Char.toLower)

/-- The credentials that a header holds. -/
def credentials? (header : String) : Option (String × String) := do
  let (scheme, coded) ← Text.cut ' ' (Text.trim header.toList)
  if scheme.map Char.toLower ≠ "basic".toList then none
  let text ← Utf8.decode? (← Base64.decode? (Text.trim coded))
  let (username, password) ← Text.cut ':' text
  return (String.ofList username, String.ofList password)

variable {σ : Type}

/-- What is done with a header that announces credentials. -/
def check (realm : String) (users : Users) (header : String) (rest : Ahead σ) : Flow σ Response :=
  match credentials? header with
  | none => pure (challenge realm)
  | some (username, password) =>
    match users.authenticate username password .httpBasic with
    | .error _ => pure (challenge realm)
    | .ok a => do
      Flow.update (·.authenticate a)
      rest.run

/-- The stage. -/
def run (realm : String) (users : Users) (rest : Ahead σ) : Flow σ Response := do
  match (← Flow.request).header? "authorization" with
  | none => rest.run
  | some header => if isAnnounced header then check realm users header rest else rest.run

end Portcullis.HttpBasic
