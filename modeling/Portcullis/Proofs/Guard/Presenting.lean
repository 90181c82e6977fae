import Portcullis.Proofs.Guard.Hosting
import Portcullis.Proofs.Session.CookieLine

/-!
# Presenting the session cookie

The name of the session cookie is taken as it has been asked for; nothing looks at it before the cookie is queued. So a
client that sends the cookie back is bound to its session again if the name is one that the reader finds as it has been
written, and only then.

* `Exchange.isName_of_session`, `Exchange.session_of_isName`: the two directions, for an exchange alone.
* `Blueprint.session_presented_iff`: for the chains that are built.
-/

namespace Portcullis

theorem Request.cookie?_withHeader {r : Request} {field value name : String} (hfield : field.toLower = "cookie")
    (h : r.cookie? name = none) : (r.withHeader field value).cookie? name = (Cookie.parseAll value).lookup name := by
  rw [cookie?] at h
  rw [cookie?, withHeader, if_pos hfield, List.lookup_append, h, Option.none_or]

variable {σ : Type}

theorem Blueprint.cookieName_of_build {b : Blueprint σ} {shared : Shared σ} {c : Chain σ} (h : b.build shared = .ok c) :
    c.cookieName = b.session.cookieName := by
  obtain ⟨matcher, -, h⟩ := Steps.bind_eq_ok_iff.1 h
  obtain ⟨own, -, h⟩ := Steps.bind_eq_ok_iff.1 h
  cases h
  rfl

namespace Exchange

/-- The last field that a binding queues is the session's cookie. -/
theorem getLast?_bindSession (e : Exchange σ) (id : SessionId) :
    (e.bindSession id).pending.getLast? = some ("set-cookie", Cookie.render e.cookieName id.text) := by
  simp [bindSession, Visit.bind]

/-- Whatever the line, a session is found only under a name that the reader finds as written. -/
theorem isName_of_session {r : Request} {field value name : String} {id : SessionId} (hfield : field.toLower = "cookie")
    (hr : r.cookie? name = none) (h : (ofRequest (r.withHeader field value) name : Exchange σ).session = some id) :
    Cookie.IsName name := by
  have hsession : ((r.withHeader field value).cookie? name).bind SessionId.ofCookie? = some id := h
  rw [Request.cookie?_withHeader hfield hr, Option.bind_eq_some_iff] at hsession
  obtain ⟨text, hlookup, -⟩ := hsession
  obtain ⟨before, after, hcookies, -⟩ := List.lookup_eq_some_iff.1 hlookup
  have hmem : (name, text) ∈ Cookie.parseAll value := by
    rw [hcookies]
    simp
  exact Cookie.isName_of_mem_parseAll hmem

/-- Under such a name, the session is found in a line that holds its pair among other cookies. -/
theorem session_of_isName {r : Request} {field name : String} (id : SessionId) {before after : List (String × String)}
    (hname : Cookie.IsName name) (hfield : field.toLower = "cookie") (hr : r.cookie? name = none)
    (hothers : ∀ cookie ∈ before ++ after, Cookie.WellFormed cookie ∧ cookie.1 ≠ name) :
    (ofRequest (r.withHeader field (Cookie.line (before.map Cookie.write ++
      Cookie.write (name, id.text) :: after.map Cookie.write))) name : Exchange σ).session = some id := by
  have hid : ';' ∉ id.text.toList := fun hc => (Ulid.plain_of_mem_text hc).2.1 rfl
  have hbefore : ∀ cookie ∈ before, Cookie.WellFormed cookie := fun cookie h =>
    (hothers cookie (List.mem_append_left _ h)).1
  have hafter : ∀ cookie ∈ after, Cookie.WellFormed cookie := fun cookie h =>
    (hothers cookie (List.mem_append_right _ h)).1
  have hpairs : ∀ p ∈ before.map Cookie.write ++ Cookie.write (name, id.text) :: after.map Cookie.write,
      ';' ∉ p.toList := by
    intro p hp
    rcases List.mem_append.1 hp with hp | hp
    · obtain ⟨cookie, hcookie, rfl⟩ := List.mem_map.1 hp
      exact Cookie.not_mem_write (hbefore cookie hcookie)
    · rcases List.mem_cons.1 hp with rfl | hp
      · exact Cookie.not_mem_write ⟨hname, hid⟩
      · obtain ⟨cookie, hcookie, rfl⟩ := List.mem_map.1 hp
        exact Cookie.not_mem_write (hafter cookie hcookie)
  have hnone : (before.map fun cookie => (cookie.1, Text.trimmed cookie.2)).lookup name = none :=
    Cookie.lookup_written fun cookie h => (hothers cookie (List.mem_append_left _ h)).2
  have hplain : Text.trimmed id.text = id.text := Text.trimmed_of_plain fun c hc => (Ulid.plain_of_mem_text hc).1
  show (Request.cookie? _ name).bind SessionId.ofCookie? = some id
  rw [Request.cookie?_withHeader hfield hr, Cookie.parseAll_line hpairs, List.filterMap_append, List.filterMap_cons,
    Cookie.parsePair_write hname, Cookie.filterMap_parsePair_write hbefore, Cookie.filterMap_parsePair_write hafter,
    List.lookup_append, hnone, Option.none_or, List.lookup_cons_self, hplain, Option.bind_some,
    SessionId.ofCookie?_text]

end Exchange

/-- The pair of the cookie that a binding queues, sent back in a line with other cookies of other names, leads a new
exchange to the session: exactly when the name that was asked for is one that the reader finds as written. -/
theorem Blueprint.session_presented_iff {b : Blueprint σ} {shared : Shared σ} {c : Chain σ}
    (hbuild : b.build shared = .ok c) {e : Exchange σ} (he : e.cookieName = c.cookieName) (id : SessionId)
    {queued : String × String} (hqueued : (e.bindSession id).pending.getLast? = some queued)
    {before after : List (String × String)}
    (hothers : ∀ cookie ∈ before ++ after, Cookie.WellFormed cookie ∧ cookie.1 ≠ c.cookieName)
    {r : Request} (hr : r.cookie? c.cookieName = none) {field : String} (hfield : field.toLower = "cookie") :
    (Exchange.ofRequest (r.withHeader field (Cookie.line (before.map Cookie.write ++
      Cookie.pair queued.2 :: after.map Cookie.write))) c.cookieName : Exchange σ).session = some id ↔
    Cookie.IsName b.session.cookieName := by
  rw [Exchange.getLast?_bindSession] at hqueued
  cases hqueued
  have hname := Blueprint.cookieName_of_build hbuild
  constructor
  · intro h
    rw [← hname]
    exact Exchange.isName_of_session hfield hr h
  · intro h
    rw [← hname] at h
    simp only [he, Cookie.pair_render h]
    exact Exchange.session_of_isName id h hfield hr hothers

/-- A line that holds the pair of a session between two cookies of other names. -/
theorem Chain.basicOnly_session_presented :
    (Exchange.ofRequest (Request.withHeader { method := .get, path := "/" } "Cookie"
      (Cookie.line ["lang=de", Cookie.pair (Cookie.render "SESSION" (Ulid.ofNat 7).text), "theme=a=b"])) "SESSION" :
      Exchange Sessions).session = some (Ulid.ofNat 7) := by
  have hothers : ∀ cookie ∈ [("lang", "de")] ++ [("theme", "a=b")],
      Cookie.WellFormed cookie ∧ cookie.1 ≠ Chain.basicOnly.cookieName := by
    intro cookie hcookie
    rcases List.mem_cons.1 hcookie with rfl | hcookie
    · exact ⟨⟨by decide, by decide⟩, by decide⟩
    · obtain rfl := List.mem_singleton.1 hcookie
      exact ⟨⟨by decide, by decide⟩, by decide⟩
  exact (Blueprint.session_presented_iff Chain.build_basicOnly
    (e := .ofRequest { method := .get, path := "/" } "SESSION") rfl (Ulid.ofNat 7) rfl hothers rfl
    (by decide +kernel)).2 (by decide)

/-- A name with `=` in it is accepted, but read back as what stands before the `=`: the session is not found. -/
theorem Blueprint.session_lost_of_equals : ∃ c queued,
    Blueprint.build { session := { cookieName := "a=b" } } Shared.ofAnn = .ok c ∧
    ((Exchange.ofRequest { method := .get, path := "/" } c.cookieName : Exchange Sessions).bindSession
      (Ulid.ofNat 7)).pending = [queued] ∧
    (Exchange.ofRequest (Request.withHeader { method := .get, path := "/" } "Cookie" (Cookie.pair queued.2))
      c.cookieName : Exchange Sessions).session = none := by
  refine ⟨⟨⟨"/**", [.anyDepth]⟩, [.autoSave (.inSession Sessions.store true false), .anonymous], "a=b"⟩,
    ("set-cookie", Cookie.render "a=b" (Ulid.ofNat 7).text), ?_, rfl, ?_⟩
  · rw [Blueprint.build_eq ⟨rfl, rfl⟩]
    rfl
  · decide +kernel

end Portcullis
