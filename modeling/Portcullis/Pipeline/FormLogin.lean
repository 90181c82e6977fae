import Portcullis.Codec.Form
import Portcullis.Pipeline.Flow
import Portcullis.Security.Users

/-!
# Form login

A login page, and the place where its form is submitted. A login that succeeds gives the session a new id before the
context changes, so that an id known from before the login is of no use after it.
-/

namespace Portcullis

/-- Where the login page is and what its form looks like. -/
structure FormLogin where
  /-- Where the form is submitted. -/
  processingUrl : String := "/login"
  page : String := "/login"
  /-- Where a login that succeeds leads. -/
  successUrl : String := "/"
  /-- Where a login that fails leads. -/
  failureUrl : String := "/login?error"
  usernameParameter : String := "username"
  passwordParameter : String := "password"
  /-- Is the page served by this stage? -/
  servePage : Bool := true
  deriving DecidableEq, Repr

namespace FormLogin

/-- What has been submitted under the two names; of several values the last counts. -/
structure Submission where
  username : Option String := none
  password : Option String := none

/-- Takes up one field of a form. -/
def Submission.take (f : FormLogin) (s : Submission) (field : String × String) : Submission :=
  if field.1 = f.usernameParameter then { s with username := some field.2 }
  else if field.1 = f.passwordParameter then { s with password := some field.2 }
  else s

/-- The name and the password that a body submits, if it submits both. -/
def credentials? (f : FormLogin) (body : String) : Option (String × String) :=
  let s := (Form.decode body).foldl (Submission.take f) {}
  match s.username, s.password with
  | some username, some password => some (username, password)
  | _, _ => none

/-- The path of the login page. -/
def pagePath (f : FormLogin) : String :=
  String.ofList (Text.upTo '?' f.page.toList)

/-- The login page. It shows an error when its query has a field of that name. -/
def pageResponse (f : FormLogin) (r : Request) : Response :=
  .json 200 (.object
    [("error", .bool ((Form.decode (r.query.getD "")).any (·.1 == "error"))),
      ("login_processing_url", .string f.processingUrl),
      ("password_parameter", .string f.passwordParameter),
      ("username_parameter", .string f.usernameParameter)])

variable {σ : Type}

/-- A login that succeeds: a new session id, the new authentication, and a save. -/
def succeed (f : FormLogin) (a : Authentication) : Flow σ Response := do
  discard (Flow.orFail (← Flow.rotateSession))
  Flow.update (·.authenticate a)
  discard (Flow.orFail (← Flow.saveContext))
  return .redirect f.successUrl

/-- What is done with a form. -/
def submit (f : FormLogin) (users : Users) (r : Request) : Flow σ Response :=
  match f.credentials? (r.body.getD "") with
  | none => pure (.redirect f.failureUrl)
  | some (username, password) =>
    match users.authenticate username password .formLogin with
    | .error _ => pure (.redirect f.failureUrl)
    | .ok a => f.succeed a

/-- Is the login page asked for? -/
def asksPage (f : FormLogin) (r : Request) : Bool :=
  r.method = Method.get && f.servePage && r.path = f.pagePath

/-- Is a form submitted? -/
def isSubmission (f : FormLogin) (r : Request) : Bool :=
  r.method = Method.post && r.path = f.processingUrl

/-- The stage. -/
def run (f : FormLogin) (users : Users) (rest : Ahead σ) : Flow σ Response := do
  let r ← Flow.request
  if f.asksPage r then return f.pageResponse r
  else if f.isSubmission r then f.submit users r
  else rest.run

end FormLogin

end Portcullis
