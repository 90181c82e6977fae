import Portcullis.Http.Response
import Portcullis.Proofs.Ulid
import Portcullis.Session.Visit

/-!
# Session cookies

A client takes the session cookie from an answer and presents its value from then on. The id that it presents is the one
that the cookie has been rendered for, since an id can be read off its text (`Ulid.parse_text`); so the client follows
the visit from session to session (`Visit.Told.sessionId?`).
-/

namespace Portcullis

/-! ## What a client takes from an answer -/

/-- The value that a `set-cookie` field gives the cookie of this name. -/
def Cookie.value (name : String) (field : String) : String :=
  String.ofList (Text.upTo ';' (field.toList.drop (name.toList.length + 1)))

/-- The session id that the answer gives the client, if it gives it one; of several the last counts. -/
def Response.sessionId? (cookieName : String) (r : Response) : Option SessionId :=
  (r.headers.filter (Visit.isCookieField cookieName)).getLast?.bind fun field =>
    SessionId.ofCookie? (Cookie.value cookieName field.2)

theorem Cookie.value_render (name : String) (id : SessionId) : value name (render name id.text) = id.text := by
  have hdrop : (render name id.text).toList.drop (name.toList.length + 1) =
      id.text.toList ++ ';' :: " Path=/; HttpOnly".toList := by
    have hrender : (render name id.text).toList =
        (name.toList ++ ['=']) ++ (id.text.toList ++ ';' :: " Path=/; HttpOnly".toList) := by
      simp [render]
    rw [hrender, List.drop_left' (by simp)]
  have hplain : ∀ c ∈ id.text.toList, (c != ';') = true := fun c hc => by simpa using (Ulid.plain_of_mem_text hc).2.1
  rw [value, hdrop, Text.upTo, List.takeWhile_append_of_pos hplain]
  simp

theorem SessionId.ofCookie?_text (id : SessionId) : ofCookie? id.text = some id := by
  rw [ofCookie?, Text.trimmed_of_plain fun c hc => (Ulid.plain_of_mem_text hc).1, Ulid.parse_text]
  rfl

/-! ## Visits of which the client knows the session -/

namespace Visit

variable {presented : Option SessionId} {visit : Visit}

/-- The visit is bound to the session that was presented, and no session cookie is queued; or it is bound to another
one, and the cookie that says so is queued. -/
def Told (presented : Option SessionId) (visit : Visit) : Prop :=
  (visit.session = presented ∧ visit.pending.filter (isCookieField visit.cookieName) = []) ∨
    ∃ id, visit.session = some id ∧ visit.pending.filter (isCookieField visit.cookieName) =
      [("set-cookie", Cookie.render visit.cookieName id.text)]

theorem told_bind (presented : Option SessionId) (visit : Visit) (id : SessionId) : (visit.bind id).Told presented :=
  .inr ⟨id, rfl, visit.bind_pending id⟩

/-- With the answer the client gets to know the session, unless it knows it already. -/
theorem Told.sessionId? (h : visit.Told presented) {r : Response}
    (hr : r.headers.filter (isCookieField visit.cookieName) = []) :
    ((r.append visit.pending).sessionId? visit.cookieName).or presented = visit.session := by
  rw [Response.sessionId?, Response.append, List.filter_append, hr, List.nil_append]
  rcases h with ⟨hsession, hpending⟩ | ⟨id, hsession, hpending⟩
  · rw [hpending, hsession]
    rfl
  · rw [hpending, hsession, List.getLast?_singleton, Option.bind_some, Cookie.value_render, SessionId.ofCookie?_text]
    rfl

end Visit

end Portcullis
