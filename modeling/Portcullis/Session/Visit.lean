import Portcullis.Http.Request
import Portcullis.Session.Id

/-!
# Visits

A visit is the part of an exchange that a repository of security contexts may read and change: the request, the
session it names, and the header fields that wait for the answer.

* `Visit.bind_pending`: of the cookies queued for the session, only the latest is sent.
-/

namespace Portcullis

/-- A client's visit: what it asked, the session it is bound to, and what will be added to the answer. -/
structure Visit where
  request : Request
  /-- The name of the session cookie. -/
  cookieName : String
  session : Option SessionId := none
  pending : Headers := []

namespace Visit

/-- A new visit; the session is the one that the cookie names, if it names one. -/
def ofRequest (request : Request) (cookieName : String) : Visit where
  request := request
  cookieName := cookieName
  session := (request.cookie? cookieName).bind SessionId.ofCookie?

/-- Is the field a cookie queued under this name? -/
def isCookieField (cookieName : String) (field : String × String) : Bool :=
  Headers.named "set-cookie" field && (cookieName.toList ++ ['=']).isPrefixOf field.2.toList

/-- Binds the visit to a session and queues its cookie, in place of one queued before. -/
def bind (v : Visit) (id : SessionId) : Visit :=
  { v with
    session := some id
    pending := v.pending.filter (fun field => !isCookieField v.cookieName field) ++
      [("set-cookie", Cookie.render v.cookieName id.text)] }

theorem bind_pending (v : Visit) (id : SessionId) :
    (v.bind id).pending.filter (isCookieField v.cookieName) = [("set-cookie", Cookie.render v.cookieName id.text)] := by
  have h : isCookieField v.cookieName ("set-cookie", Cookie.render v.cookieName id.text) = true := by
    simp only [isCookieField, Headers.named, Text.sameIgnoringCase_self, Bool.true_and, Cookie.render,
      String.toList_append, List.append_assoc, List.isPrefixOf_iff_prefix]
    exact ⟨id.text.toList ++ "; Path=/; HttpOnly".toList, by simp⟩
  simp [bind, List.filter_filter, h]

end Visit

end Portcullis
