import Portcullis.Http.Method
import Portcullis.Http.Headers
import Portcullis.Http.Cookie
import Portcullis.Ulid

/-!
# Requests

A request is built step by step: `Request.ofTarget`, then `withHeader`, `withCookie` and `withBody`.
-/

namespace Portcullis

/-- A request as the pipeline sees it. -/
structure Request where
  method : Method
  path : String
  query : Option String := none
  headers : Headers := []
  cookies : List (String × String) := []
  body : Option String := none
  /-- The id the caller sent along, if its last `x-request-id` is one; otherwise the host makes one up. -/
  callerId : Option Ulid := none

namespace Request

/-- A request for a target: the path ends at the first `?`, and the query follows it. -/
def ofTarget (method : Method) (target : String) : Request :=
  match Text.cutString '?' target with
  | some (path, query) => { method, path, query := some query }
  | none => { method, path := target }

/-- Adds a header. Names are held in lower case; a `cookie` header adds its cookies as well. -/
def withHeader (r : Request) (name value : String) : Request :=
  let key := name.toLower
  { r with
    headers := r.headers ++ [(key, value)]
    cookies := if key = "cookie" then r.cookies ++ Cookie.parseAll value else r.cookies
    callerId := if key = "x-request-id" then (Ulid.parse value).toOption else r.callerId }

/-- Adds a cookie. -/
def withCookie (r : Request) (name value : String) : Request :=
  { r with cookies := r.cookies ++ [(name, value)] }

/-- Sets the body. -/
def withBody (r : Request) (body : String) : Request :=
  { r with body := some body }

/-- The value of the first header of a name. -/
def header? (r : Request) (name : String) : Option String :=
  r.headers.get? name

/-- The value of the first cookie of a name; case matters. -/
def cookie? (r : Request) (name : String) : Option String :=
  r.cookies.lookup name

/-- The origin that a browser names. -/
def origin? (r : Request) : Option String :=
  r.header? "origin"

/-- A browser asks whether it may send a request of another kind. -/
def isPreflight (r : Request) : Bool :=
  r.method = Method.options && r.origin?.isSome && (r.header? "access-control-request-method").isSome

end Request

end Portcullis
