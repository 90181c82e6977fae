import Portcullis.Http.Headers
import Portcullis.Json

/-!
# Responses
-/

namespace Portcullis

/-- A response: its status, header fields and body. -/
structure Response where
  status : Nat
  headers : Headers := []
  body : Json := .null

namespace Response

/-- A response with a JSON body. -/
def json (status : Nat) (body : Json) : Response :=
  ⟨status, [("content-type", "application/json")], body⟩

/-- A response that says what went wrong. -/
def error (status : Nat) (message : String) : Response :=
  json status (.object [("error", .string message)])

/-- A response that sends the client elsewhere. -/
def redirect (location : String) : Response :=
  ⟨302, [("location", location)], .null⟩

/-- Replaces all fields of a name by one. -/
def setHeader (r : Response) (name value : String) : Response :=
  { r with headers := r.headers.set name value }

/-- Adds fields at the end. -/
def append (r : Response) (fields : Headers) : Response :=
  { r with headers := r.headers ++ fields }

/-- Adds a token to the `vary` list. -/
def addVary (r : Response) (token : String) : Response :=
  { r with headers := r.headers.addVary token }

end Response

end Portcullis
