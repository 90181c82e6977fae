import Portcullis.Proofs.CommaList
import Portcullis.Proofs.Cors.Fields

/-!
# Preflights and their answers

A preflight asks for a method and for header names, and both sides write lists with commas: the browser the names it
asks for, the server the methods and the names that it allows. What the server has allowed, the browser finds in the
answer, however the policy's lists are written (`preflight_consistent`).

* `Policy.rejects_iff`: which header names a policy turns down.
* `exists_of_decide_preflight`: what is behind an allowed preflight.
* `listed_allowMethods`, `listed_allowHeaders`: what the answer lists.
-/

namespace Portcullis

/-- What the fields of a name list together. -/
def Headers.listed (h : Headers) (name : String) : List String :=
  (h.getAll name).flatMap Text.commaParts

/-- The header names that a preflight asks for, in the first of the fields that may list them. -/
def Request.askedHeaders (r : Request) : List String :=
  (r.header? "access-control-request-headers").toList.flatMap Text.commaTokens

theorem Request.announces_of_isPreflight {r : Request} {m : Method} (hpreflight : r.isPreflight = true)
    (h : r.corsMethod? = some m) : r.Announces m := by
  simp only [isPreflight, Bool.and_eq_true, decide_eq_true_eq] at hpreflight
  obtain ⟨⟨hoptions, horigin⟩, hannounced⟩ := hpreflight
  obtain ⟨name, hname⟩ := Option.isSome_iff_exists.1 hannounced
  rw [corsMethod?, if_pos (by simp [isPreflight, hoptions, horigin, hname]), hname, Option.getD_some,
    Method.parse?] at h
  split at h
  · cases h
    exact ⟨hoptions, hname⟩
  · cases h

namespace Cors

variable {source : Source} {policy : Policy} {answer name : String} {requested : Option String}

/-! ## What a policy turns down -/

theorem Policy.allowsAllHeaders_iff : policy.allowsAllHeaders = true ↔ "*" ∈ policy.headers :=
  List.contains_iff_mem

theorem Policy.firstRejected?_isSome_iff {names : String} : (policy.firstRejected? names).isSome = true ↔
    "*" ∉ policy.headers ∧ ∃ name ∈ Text.commaTokens names, ∀ entry ∈ policy.headers,
      Text.sameIgnoringCase entry name = false := by
  rw [firstRejected?, ← allowsAllHeaders_iff]
  cases policy.allowsAllHeaders with
  | true => simp
  | false => simp [List.find?_isSome]

/-- A policy turns down what it does not list, unless it allows all names. -/
theorem Policy.rejects_iff : (requested.bind policy.firstRejected?).isSome = true ↔
    "*" ∉ policy.headers ∧ ∃ name ∈ requested.toList.flatMap Text.commaTokens, ∀ entry ∈ policy.headers,
      Text.sameIgnoringCase entry name = false := by
  cases requested with
  | none => simp
  | some names => simp [firstRejected?_isSome_iff]

theorem Policy.mem_methods_of_allowsMethod {m : Method} (h : policy.allowsMethod m = true) :
    m ∈ policy.methods ∨ m = .head := by
  rw [allowsMethod, Bool.or_eq_true] at h
  rcases h with h | h
  · exact .inl (List.contains_iff_mem.1 h)
  · rw [Bool.and_eq_true, decide_eq_true_eq] at h
    exact .inr h.1

/-! ## What the answer lists -/

/-- The methods of the policy are listed. -/
theorem listed_allowMethods {m : Method} (hm : m ∈ policy.methods) :
    m.name ∈ (preflightHeaders policy answer requested).listed "access-control-allow-methods" := by
  have hfield : ("access-control-allow-methods", ", ".intercalate (policy.methods.map (·.name))) ∈
      preflightHeaders policy answer requested := by simp [preflightHeaders]
  rw [Headers.listed, getAll_preflightHeaders hfield, List.flatMap_singleton]
  exact m.isPart.mem_commaParts_intercalate (List.mem_map_of_mem hm)

/-- What is in the header answer is listed. -/
theorem listed_of_mem_headerAnswer {entry : String} (h : entry ∈ Text.commaParts (headerAnswer policy requested))
    (hentry : entry ≠ "") :
    entry ∈ (preflightHeaders policy answer requested).listed "access-control-allow-headers" := by
  have hanswer : headerAnswer policy requested ≠ "" := by
    intro hempty
    rw [hempty] at h
    exact hentry (by simpa [Text.commaParts, Text.trim, Text.stripEnds] using h)
  have hfield : ("access-control-allow-headers", headerAnswer policy requested) ∈
      preflightHeaders policy answer requested := by simp [preflightHeaders, hanswer]
  rw [Headers.listed, getAll_preflightHeaders hfield, List.flatMap_singleton]
  exact h

/-- Every name that is asked for and not turned down is listed: as it has been asked for where all names are allowed,
and else as the policy has it. -/
theorem listed_allowHeaders (hname : name ∈ requested.toList.flatMap Text.commaTokens)
    (haccepted : (requested.bind policy.firstRejected?).isSome = false) :
    ∃ entry ∈ (preflightHeaders policy answer requested).listed "access-control-allow-headers",
      Text.sameIgnoringCase entry name = true := by
  obtain ⟨names, hnames, htoken⟩ := List.mem_flatMap.1 hname
  obtain ⟨hpart, hempty⟩ := Text.mem_commaTokens.1 htoken
  obtain rfl := Option.mem_toList.1 hnames
  by_cases hall : "*" ∈ policy.headers
  · refine ⟨name, listed_of_mem_headerAnswer ?_ hempty, Text.sameIgnoringCase_self name⟩
    rwa [headerAnswer, if_pos (Policy.allowsAllHeaders_iff.2 hall), Option.getD_some]
  · have hentry : ∃ entry ∈ policy.headers, Text.sameIgnoringCase entry name = true := by
      by_contra hnone
      have hrejected := Policy.rejects_iff.2 ⟨hall, name, hname, by simpa using hnone⟩
      rw [haccepted] at hrejected
      cases hrejected
    obtain ⟨entry, hlisted, hsame⟩ := hentry
    -- the name has no comma and nothing to trim, and so neither has the entry
    have hwhole : Text.IsPart entry := (Text.isPart_of_mem_commaParts hpart).congr hsame
    refine ⟨entry, listed_of_mem_headerAnswer ?_ ?_, hsame⟩
    · rw [headerAnswer, if_neg (mt Policy.allowsAllHeaders_iff.1 hall)]
      exact hwhole.mem_commaParts_intercalate hlisted
    · rintro rfl
      rw [Text.sameIgnoringCase_iff] at hsame
      exact hempty (String.toList_inj.1 (List.map_eq_nil_iff.1 hsame.symm))

/-! ## What is behind an allowed preflight -/

theorem exists_of_decide_preflight {r : Request} {headers : Headers} (h : decide source r = .allow headers true) :
    ∃ m policy answer, r.Announces m ∧ policy.allowsMethod m = true ∧
      ((r.header? "access-control-request-headers").bind policy.firstRejected?).isSome = false ∧
      headers = preflightHeaders policy answer (r.header? "access-control-request-headers") := by
  obtain ⟨m, policy, answer, hpreflight, hmethod, hallowed, htold⟩ := exists_granted_of_decide h
  rw [if_pos rfl, Verdict.announced] at htold
  split at htold
  case isTrue => cases htold
  case isFalse haccepted =>
    cases htold
    exact ⟨m, policy, answer, Request.announces_of_isPreflight hpreflight hmethod, hallowed, by simpa using haccepted,
      rfl⟩

/-- An allowed preflight is answered consistently: the method that it announces is listed, or is one of those that need
no listing, and so is every header name that it asks for. Where origin and method are allowed, a preflight is turned
down for its headers just where the policy does not allow all names and one of those asked for is none of its own. -/
theorem preflight_consistent (source : Source) (r : Request) :
    (∀ headers, decide source r = .allow headers true → ∃ m, r.Announces m ∧
      (m.name ∈ headers.listed "access-control-allow-methods" ∨ m ∈ [Method.get, .head, .post]) ∧
      ∀ name ∈ r.askedHeaders, ∃ entry ∈ headers.listed "access-control-allow-headers",
        Text.sameIgnoringCase entry name = true) ∧
    ∀ origin m policy, r.origin? = some origin → isSameOrigin r origin = false → r.Announces m →
      source.find? m r.path = some policy → policy.origins.allows origin = true → policy.allowsMethod m = true →
      (decide source r = .deny .headers true ↔
        "*" ∉ policy.headers ∧ ∃ name ∈ r.askedHeaders, ∀ entry ∈ policy.headers,
          Text.sameIgnoringCase entry name = false) := by
  constructor
  · intro headers h
    obtain ⟨m, policy, answer, hannounces, hmethod, haccepted, rfl⟩ := exists_of_decide_preflight h
    refine ⟨m, hannounces, ?_, fun name hname => listed_allowHeaders hname haccepted⟩
    rcases Policy.mem_methods_of_allowsMethod hmethod with hlisted | rfl
    · exact .inl (listed_allowMethods hlisted)
    · exact .inr (by simp)
  · intro origin m policy horigin hforeign hannounces hfind hallows hmethod
    have hsome := Option.isSome_of_eq_some horigin
    have hgranted := verdict_eq_granted_iff.2 ⟨hfind, hallows, hmethod, rfl⟩
    rw [decide_of_foreign horigin hforeign, hannounces.corsMethod? hsome]
    simp only [hannounces.isPreflight hsome, if_true, hgranted, Verdict.announced]
    rw [Request.askedHeaders, ← Policy.rejects_iff]
    split
    case isTrue hrejected => simp [hrejected]
    case isFalse haccepted => simp [haccepted]

/-- The method `PUT`. -/
def putMethod : Method := ⟨"PUT", by decide⟩

/-- Pages may read and replace, and name two header fields. -/
def replacing : Policy where
  origins := .any
  methods := [.get, putMethod]
  headers := ["Content-Type", "X-Token"]
  exposed := []
  credentials := false
  maxAge := none

/-- The policy holds for all paths. -/
def replacingSource : Source :=
  .paths ⟨[(⟨"/**", [.anyDepth]⟩, replacing)]⟩

/-- A page of another site is about to replace `/`, with header fields of these names. -/
def askingToReplace (names : String) : Request where
  method := .options
  path := "/"
  headers := [("origin", "https://shop.example"), ("access-control-request-method", "PUT"),
    ("access-control-request-headers", names)]

theorem header?_askingToReplace (names : String) : (askingToReplace names).header? "host" = none ∧
    (askingToReplace names).origin? = some "https://shop.example" ∧
    (askingToReplace names).header? "access-control-request-method" = some "PUT" ∧
    (askingToReplace names).header? "access-control-request-headers" = some names := by
  obtain ⟨hhost, hmethod, hheaders⟩ := askingNames_ne
  simp only [List.forall_mem_cons] at hhost hheaders
  simp [askingToReplace, Request.origin?, Request.header?, Headers.get?, Headers.named, hhost, hmethod, hheaders,
    Text.sameIgnoringCase_self]

theorem foreign_askingToReplace (names : String) :
    isSameOrigin (askingToReplace names) "https://shop.example" = false := by
  rw [isSameOrigin, (header?_askingToReplace names).1]

theorem find?_askingToReplace (names : String) :
    replacingSource.find? putMethod (askingToReplace names).path = some replacing := by
  rw [show (askingToReplace names).path = "/" from rfl]
  rfl

theorem decide_askingToReplace (names : String) : decide replacingSource (askingToReplace names) =
    if (replacing.firstRejected? names).isSome then .deny .headers true
    else .allow (preflightHeaders replacing "*" (some names)) true := by
  obtain ⟨-, horigin, hmethod, hheaders⟩ := header?_askingToReplace names
  have hannounces : (askingToReplace names).Announces putMethod := ⟨rfl, hmethod⟩
  have hsome := Option.isSome_of_eq_some horigin
  have hallows : replacing.origins.allows "https://shop.example" = true := rfl
  have hgranted := verdict_eq_granted_iff.2 ⟨find?_askingToReplace names, hallows, by decide, rfl⟩
  rw [decide_of_foreign horigin (foreign_askingToReplace names), hannounces.corsMethod? hsome]
  simp only [hannounces.isPreflight hsome, if_true, hheaders, hgranted]
  rfl

/-- The two fields may be asked for in any case and with any blanks; with a third one the preflight is turned down. -/
theorem replacing_consistent :
    (∃ headers, decide replacingSource (askingToReplace "x-token, ,CONTENT-TYPE") = .allow headers true ∧
      putMethod.name ∈ headers.listed "access-control-allow-methods" ∧
      ∀ name ∈ ["x-token", "CONTENT-TYPE"], ∃ entry ∈ headers.listed "access-control-allow-headers",
        Text.sameIgnoringCase entry name = true) ∧
    decide replacingSource (askingToReplace "x-token,X-Trace") = .deny .headers true := by
  have htokens : Text.commaTokens "x-token, ,CONTENT-TYPE" = ["x-token", "CONTENT-TYPE"] := by decide +kernel
  have hknown : ∀ name ∈ ["x-token", "CONTENT-TYPE"], ∃ entry ∈ replacing.headers,
      Text.sameIgnoringCase entry name = true := by
    simp only [Text.sameIgnoringCase_iff]
    decide +kernel
  constructor
  · have haccepted : ¬(replacing.firstRejected? "x-token, ,CONTENT-TYPE").isSome = true := by
      rw [Policy.firstRejected?_isSome_iff, htokens]
      rintro ⟨-, name, hname, hnone⟩
      obtain ⟨entry, hentry, hsame⟩ := hknown name hname
      rw [hnone entry hentry] at hsame
      cases hsame
    have hallowed := (decide_askingToReplace "x-token, ,CONTENT-TYPE").trans (if_neg haccepted)
    obtain ⟨m, hannounces, hmethod, hlisted⟩ := (preflight_consistent replacingSource _).1 _ hallowed
    have hasked : (askingToReplace "x-token, ,CONTENT-TYPE").askedHeaders = ["x-token", "CONTENT-TYPE"] := by
      rw [Request.askedHeaders, (header?_askingToReplace _).2.2.2]
      simp [htokens]
    have hput : m.name = "PUT" := by
      have hsame := hannounces.announced.symm.trans (header?_askingToReplace _).2.2.1
      simpa using hsame
    refine ⟨_, hallowed, ?_, fun name hname => hlisted name (hasked ▸ hname)⟩
    rcases hmethod with hmethod | hmethod
    · rwa [hput] at hmethod
    · have hnames : ∀ m ∈ [Method.get, .head, .post], m.name ≠ "PUT" := by decide +kernel
      exact absurd hput (hnames m hmethod)
  · obtain ⟨-, horigin, hmethod, -⟩ := header?_askingToReplace "x-token,X-Trace"
    have hannounces : (askingToReplace "x-token,X-Trace").Announces putMethod := ⟨rfl, hmethod⟩
    have hallows : replacing.origins.allows "https://shop.example" = true := rfl
    have hput : replacing.allowsMethod putMethod = true := by decide +kernel
    have hiff := (preflight_consistent replacingSource _).2 _ putMethod replacing horigin (foreign_askingToReplace _)
      hannounces (find?_askingToReplace _) hallows hput
    have hstar : "*" ∉ replacing.headers := by simp [replacing]
    have hasked : "X-Trace" ∈ (askingToReplace "x-token,X-Trace").askedHeaders := by
      have htrace : "X-Trace" ∈ Text.commaTokens "x-token,X-Trace" := by decide +kernel
      rw [Request.askedHeaders, (header?_askingToReplace _).2.2.2]
      simpa using htrace
    have hforeign : ∀ entry ∈ replacing.headers, Text.sameIgnoringCase entry "X-Trace" = false := by decide +kernel
    exact hiff.2 ⟨hstar, "X-Trace", hasked, hforeign⟩

end Cors

end Portcullis
