import Portcullis.Pipeline.Stage
import Portcullis.Proofs.Cors.Registration
import Portcullis.Proofs.Cors.Routing
import Portcullis.Proofs.Cors.Verdict
import Portcullis.Proofs.Pipeline.Effects

/-!
# Paths that no pattern covers

Where no registered pattern covers the path of a request (`Cors.Source.Unmatched`), no policy holds for it, and the
stage for other origins lets it pass, whatever is to become of requests that are denied. There is one exception. A
preflight is asked for the method that it announces before a policy is looked up; if it announces none that can be read
(`Request.Garbled`), it is denied on every path.

* `Cors.Source.unmatched_paths_iff`, `Cors.Source.unmatched_routes_iff`: what that says about the calls that registered.
* `Stage.cors_unmatched`: what becomes of such requests.
-/

namespace Portcullis

/-! ## Requests -/

/-- The request comes from another origin than the server's own. -/
def Request.Foreign (r : Request) : Prop :=
  ∃ origin, r.origin? = some origin ∧ Cors.isSameOrigin r origin = false

/-- A preflight from another origin that announces a method by a text that names none. -/
structure Request.Garbled (r : Request) : Prop where
  options : r.method = .options
  foreign : r.Foreign
  announced : ∃ text, r.header? "access-control-request-method" = some text ∧ ¬Method.IsToken text

theorem Method.parse?_eq_none_iff {text : String} : Method.parse? text = none ↔ ¬Method.IsToken text := by
  simp [parse?]

theorem Request.Foreign.isSome {r : Request} (h : r.Foreign) : r.origin?.isSome = true := by
  obtain ⟨origin, horigin, -⟩ := h
  exact Option.isSome_of_eq_some horigin

/-- A request from another origin is about a method, unless it is garbled. -/
theorem Request.Foreign.garbled_iff {r : Request} (h : r.Foreign) : r.Garbled ↔ r.corsMethod? = none := by
  constructor
  · rintro ⟨hoptions, -, text, htext, htoken⟩
    have hpreflight : r.isPreflight = true := by simp [isPreflight, hoptions, h.isSome, htext]
    rw [corsMethod?, if_pos hpreflight, htext, Option.getD_some, Method.parse?_eq_none_iff]
    exact htoken
  · intro hmethod
    rw [corsMethod?] at hmethod
    split at hmethod
    case isFalse => cases hmethod
    case isTrue hpreflight =>
      obtain ⟨⟨hoptions, -⟩, hannounced⟩ : (r.method = .options ∧ r.origin?.isSome = true) ∧
          (r.header? "access-control-request-method").isSome = true := by simpa [isPreflight] using hpreflight
      obtain ⟨text, htext⟩ := Option.isSome_iff_exists.1 hannounced
      rw [htext, Option.getD_some, Method.parse?_eq_none_iff] at hmethod
      exact ⟨hoptions, h, text, htext, hmethod⟩

namespace Cors

namespace Source

/-- No registered pattern covers the path. -/
def Unmatched : Source → String → Prop
  | .paths table, path => ∀ entry ∈ table.entries, entry.1.covers path = false
  | .routes table, path => ∀ r ∈ table.routes, r.pattern.covers path = false

variable {source : Source} {path : String}

/-- Of all calls that registered a policy, none has a pattern that covers the path. -/
theorem unmatched_paths_iff {calls : List PathTable.Call} : (paths (.after calls)).Unmatched path ↔
    ∀ call ∈ calls, ∀ p, PathPattern.parse call.1 = .ok p → p.covers path = false := by
  have hentries : (paths (.after calls)).Unmatched path ↔
      ∀ p ∈ PathTable.patterns (PathTable.registered calls), p.covers path = false := by
    rw [← PathTable.map_after, List.forall_mem_map]
    rfl
  rw [hentries]
  simp only [PathTable.patterns, List.mem_eraseDups, List.forall_mem_map]
  constructor
  · intro h call hcall p hp
    refine h (p, call.2) ?_
    exact List.mem_filterMap.2 ⟨call, hcall, PathTable.Call.read?_of_ok hp⟩
  · intro h entry hentry
    obtain ⟨call, hcall, hp⟩ := PathTable.exists_of_mem_registered hentry
    exact h call hcall entry.1 hp

/-- Of all calls that registered a route, none has a pattern that covers the path, whatever methods it names. -/
theorem unmatched_routes_iff {shared : Policy} {calls : List RouteTable.Call} :
    (routes (.after shared calls)).Unmatched path ↔
      ∀ call ∈ calls, ∀ r, call.Gives shared r → r.pattern.covers path = false := by
  show (∀ r ∈ (RouteTable.after shared calls).routes, r.pattern.covers path = false) ↔ _
  have h := RouteTable.registered_after shared calls
  generalize (RouteTable.after shared calls).routes = routes at h
  induction h with
  | start => simp
  | @given calls routes call r h hcall ih =>
    rw [List.forall_mem_append, List.forall_mem_append, List.forall_mem_singleton, List.forall_mem_singleton]
    refine and_congr ih ⟨fun hcovers r' hcall' => ?_, fun hcovers => hcovers r hcall⟩
    have hsame : r.pattern = r'.pattern := by simpa [hcall.pattern] using hcall'.pattern
    rwa [← hsame]
  | @failed calls routes call fault h hcall ih =>
    rw [List.forall_mem_append, List.forall_mem_singleton]
    refine ⟨fun hcovers => ⟨ih.1 hcovers, fun r hgives => ?_⟩, fun hcovers => ih.2 hcovers.1⟩
    have hok := RouteTable.register_of_gives (t := ⟨shared, []⟩) hgives
    rw [RouteTable.register_of_fails (t := ⟨shared, []⟩) hcall] at hok
    cases hok

/-- There is no policy for such a path, for no method. -/
theorem Unmatched.find? (h : source.Unmatched path) (m : Method) : source.find? m path = none := by
  cases source with
  | paths table =>
    have hnone : PathPattern.mostSpecific table.entries path = none := PathPattern.mostSpecific_eq_none_iff.2 h
    rw [Source.find?, PathTable.find?, hnone]
    rfl
  | routes table =>
    refine RouteTable.find?_eq_iff.2 (.unmatched fun r hr htakes => ?_)
    have hcovers := htakes.covers
    rw [h r hr] at hcovers
    cases hcovers

end Source

variable {source : Source} {r : Request}

theorem decide_of_not_foreign (source : Source) (h : ¬r.Foreign) : decide source r = .notCrossOrigin := by
  by_contra hne
  exact h (exists_foreign_of_decide hne)

/-- Nothing is looked up for a preflight that is garbled. -/
theorem decide_of_garbled (source : Source) (h : r.Garbled) : decide source r = .deny .method true := by
  obtain ⟨origin, horigin, hforeign⟩ := h.foreign
  rw [decide_of_foreign horigin hforeign, h.foreign.garbled_iff.1 h]

/-- Where nothing is found, nothing is decided. -/
theorem decide_of_unmatched (h : source.Unmatched r.path) (hforeign : r.Foreign) (hclear : ¬r.Garbled) :
    decide source r = .noPolicy := by
  rw [hforeign.garbled_iff] at hclear
  obtain ⟨m, hmethod⟩ := Option.ne_none_iff_exists'.1 hclear
  obtain ⟨origin, horigin, hother⟩ := hforeign
  have hverdict : verdict source origin m r.path = .noPolicy := by rw [verdict, h.find? m]
  rw [decide_of_foreign horigin hother, hmethod]
  simp only [hverdict, Verdict.announced, Verdict.actual, ite_self]

end Cors

/-! ## The stage -/

namespace Stage

variable {σ : Type} [Clocked σ] {source : Cors.Source}

/-- The decision about the request is noted. -/
def noting (source : Cors.Source) (p : Passage σ) : Passage σ :=
  { p with exchange := { p.exchange with decision := some (Cors.decide source p.exchange.request) } }

theorem run_cors (source : Cors.Source) (reject : RejectPolicy) (rest : Ahead σ) (p : Passage σ) :
    (Stage.cors source reject).run rest p =
      follow (Cors.decide source p.exchange.request) reject rest (noting source p) := by
  rw [run, runCors]
  simp [Flow.request, Flow.update, noting]

/-- Where no pattern covers the path, the stage passes the request on under every reject policy, and nothing is decided
about it; so is nothing about an actual request to that path. But a garbled preflight is denied for its method, and the
stage refuses it. -/
theorem cors_unmatched (reject : RejectPolicy) (rest : Ahead σ) (p : Passage σ)
    (h : source.Unmatched p.exchange.request.path) :
    (¬p.exchange.request.Garbled →
      (Cors.decide source p.exchange.request = .notCrossOrigin ∨ Cors.decide source p.exchange.request = .noPolicy) ∧
      (Stage.cors source reject).run rest p = rest.run (noting source p)) ∧
    (p.exchange.request.Garbled →
      Cors.decide source p.exchange.request = .deny .method true ∧
      (Stage.cors source reject).run rest p = (.ok invalidCors, noting source p)) ∧
    ∀ origin m,
      Cors.decideActual source origin m p.exchange.request.path = origin.elim .notCrossOrigin fun _ => .noPolicy := by
  refine ⟨fun hclear => ?_, fun hgarbled => ?_, fun origin m => ?_⟩
  · have hdecided : Cors.decide source p.exchange.request = .notCrossOrigin ∨
        Cors.decide source p.exchange.request = .noPolicy := by
      by_cases hforeign : p.exchange.request.Foreign
      · exact .inr (Cors.decide_of_unmatched h hforeign hclear)
      · exact .inl (Cors.decide_of_not_foreign source hforeign)
    refine ⟨hdecided, ?_⟩
    rcases hdecided with hdecided | hdecided <;> rw [run_cors, hdecided] <;> rfl
  · have hdenied := Cors.decide_of_garbled source hgarbled
    exact ⟨hdenied, by rw [run_cors, hdenied]; rfl⟩
  · cases origin with
    | none => rfl
    | some origin => rw [Cors.decideActual, h.find? m, Option.elim]

/-! ## Beside the interface -/

/-- Only what lies below `api` is open to other origins. -/
def apiSource : Cors.Source :=
  .paths (.after [("/api/**", .permitDefaults)])

/-- A page of another site asks for a method that is none. -/
def garbledPreflight : Request where
  method := .options
  path := "/docs"
  headers := [("origin", "https://shop.example"), ("access-control-request-method", "GE T")]

/-- A page of another site reads the same path. -/
def docsGet : Request where
  method := .get
  path := "/docs"
  headers := [("origin", "https://shop.example")]

theorem unmatched_apiSource : apiSource.Unmatched "/docs" := by
  have hparse : PathPattern.parse "/api/**" =
      .ok ⟨"/api/**", [.single ("api".toList.map .exactly), .anyDepth]⟩ := by decide
  rw [apiSource, Cors.Source.unmatched_paths_iff, List.forall_mem_singleton]
  intro p hp
  obtain rfl : _ = p := by simpa [hparse] using hp
  decide

theorem garbled_garbledPreflight : garbledPreflight.Garbled := by
  obtain ⟨hhost, hmethod, -⟩ := Cors.askingNames_ne
  simp only [List.forall_mem_cons] at hhost
  refine ⟨rfl, ⟨"https://shop.example", by decide +kernel, ?_⟩, "GE T", ?_, by decide +kernel⟩
  · have hnone : garbledPreflight.header? "host" = none := by
      simp [garbledPreflight, Request.header?, Headers.get?, Headers.named, hhost]
    rw [Cors.isSameOrigin, hnone]
  · simp [garbledPreflight, Request.header?, Headers.get?, Headers.named, hmethod, Text.sameIgnoringCase_self]

/-- No pattern covers the path, and the request is denied and refused all the same, even where denied requests pass. -/
theorem garbledPreflight_refused : apiSource.Unmatched garbledPreflight.path ∧
    (Cors.decide apiSource garbledPreflight).isDenied = true ∧
    ((Stage.cors apiSource .passThrough).run (.answering { status := 200 }) (.arriving garbledPreflight)).1 =
      .ok invalidCors := by
  have hdenied := Cors.decide_of_garbled apiSource garbled_garbledPreflight
  refine ⟨unmatched_apiSource, by rw [hdenied]; rfl, ?_⟩
  rw [run_cors]
  show (follow (Cors.decide apiSource garbledPreflight) _ _ _).1 = _
  rw [hdenied]
  rfl

/-- A page that reads beside the interface gets its answer, even where denied requests are refused. -/
theorem docsGet_passes : apiSource.Unmatched (Passage.arriving docsGet).exchange.request.path ∧ ¬docsGet.Garbled ∧
    (Cors.decide apiSource docsGet).isDenied = false ∧
    ((Stage.cors apiSource .forbid).run (.answering { status := 200 }) (.arriving docsGet)).1 =
      .ok { status := 200 } := by
  have hclear : ¬docsGet.Garbled := fun h => absurd h.options (by decide +kernel)
  obtain ⟨hpass, -, -⟩ := cors_unmatched .forbid (.answering { status := 200 }) (.arriving docsGet) unmatched_apiSource
  obtain ⟨hdecided, hrun⟩ := hpass hclear
  have hdecided : Cors.decide apiSource docsGet = .notCrossOrigin ∨ Cors.decide apiSource docsGet = .noPolicy :=
    hdecided
  refine ⟨unmatched_apiSource, hclear, ?_, by rw [hrun]; rfl⟩
  rcases hdecided with h | h <;> rw [h] <;> rfl

end Stage

end Portcullis
