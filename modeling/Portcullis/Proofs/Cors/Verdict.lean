import Portcullis.Cors.Decision
import Portcullis.Proofs.Text

/-!
# Verdicts

What the policies say about an origin that uses a method on a path. A preflight and an actual request are told the same
verdict, each in its own form (`decideAnnounced_eq`, `decideActual_eq`); so what a browser is told when it asks agrees
with what becomes of the request that it then sends (`decide_preflight_agrees`).
-/

namespace Portcullis

/-- A preflight that announces a method. -/
structure Request.Announces (r : Request) (m : Method) : Prop where
  options : r.method = .options
  announced : r.header? "access-control-request-method" = some m.name

/-- The method that a request is about: the one that a preflight announces, or its own. -/
def Request.corsMethod? (r : Request) : Option Method :=
  if r.isPreflight then Method.parse? ((r.header? "access-control-request-method").getD "") else some r.method

theorem Request.Announces.isPreflight {r : Request} {m : Method} (h : r.Announces m)
    (horigin : r.origin?.isSome = true) : r.isPreflight = true := by
  simp [Request.isPreflight, h.options, horigin, h.announced]

theorem Request.Announces.corsMethod? {r : Request} {m : Method} (h : r.Announces m)
    (horigin : r.origin?.isSome = true) : r.corsMethod? = some m := by
  rw [Request.corsMethod?, if_pos (h.isPreflight horigin), h.announced, Option.getD_some, Method.parse?_name]

namespace Cors

variable {source : Source} {origin : String} {m : Method} {path : String}

/-- What the policies say. -/
inductive Verdict
  | noPolicy
  | foreignOrigin
  | foreignMethod
  /-- It is granted under this policy, and `answer` is the origin to name. -/
  | granted (policy : Policy) (answer : String)

/-- What the policies say about an origin that uses a method on a path. -/
def verdict (source : Source) (origin : String) (m : Method) (path : String) : Verdict :=
  match source.find? m path with
  | none => .noPolicy
  | some policy =>
    match policy.originAnswer? origin with
    | none => .foreignOrigin
    | some answer => if policy.allowsMethod m then .granted policy answer else .foreignMethod

theorem Policy.originAnswer?_eq_some_iff {policy : Policy} {answer : String} :
    policy.originAnswer? origin = some answer ↔
      policy.origins.allows origin = true ∧ answer = if policy.origins.isAny then "*" else origin := by
  simp [originAnswer?, eq_comm (a := answer)]

theorem verdict_eq_granted_iff {policy : Policy} {answer : String} :
    verdict source origin m path = .granted policy answer ↔
      source.find? m path = some policy ∧ policy.origins.allows origin = true ∧ policy.allowsMethod m = true ∧
        answer = if policy.origins.isAny then "*" else origin := by
  constructor
  · intro h
    rw [verdict] at h
    cases hfind : source.find? m path with
    | none => simp [hfind] at h
    | some found =>
      cases hanswer : found.originAnswer? origin with
      | none => simp [hfind, hanswer] at h
      | some named =>
        cases hmethod : found.allowsMethod m with
        | false => simp [hfind, hanswer, hmethod] at h
        | true =>
          simp only [hfind, hanswer, hmethod, if_true, Verdict.granted.injEq] at h
          obtain ⟨rfl, rfl⟩ := h
          obtain ⟨hallows, hnamed⟩ := Policy.originAnswer?_eq_some_iff.1 hanswer
          exact ⟨rfl, hallows, hmethod, hnamed⟩
  · rintro ⟨hfind, hallows, hmethod, hanswer⟩
    have hanswer' := Policy.originAnswer?_eq_some_iff.2 ⟨hallows, hanswer⟩
    simp only [verdict, hfind, hanswer', hmethod, if_true]

/-! ## The two forms of a verdict -/

namespace Verdict

/-- What becomes of an actual request. -/
def actual : Verdict → Decision
  | .noPolicy => .noPolicy
  | .foreignOrigin => .deny .origin false
  | .foreignMethod => .deny .method false
  | .granted policy answer =>
    .allow (commonHeaders policy answer ++
      (if policy.exposed.isEmpty then []
        else [("access-control-expose-headers", String.intercalate ", " policy.exposed)])) false

/-- What a preflight for these header names is told. -/
def announced (requested : Option String) : Verdict → Decision
  | .noPolicy => .noPolicy
  | .foreignOrigin => .deny .origin true
  | .foreignMethod => .deny .method true
  | .granted policy answer =>
    if (requested.bind policy.firstRejected?).isSome then .deny .headers true
    else .allow (preflightHeaders policy answer requested) true

end Verdict

theorem decideActual_eq (source : Source) (origin : String) (m : Method) (path : String) :
    decideActual source (some origin) m path = (verdict source origin m path).actual := by
  rw [decideActual, verdict]
  cases source.find? m path with
  | none => rfl
  | some policy =>
    cases hanswer : policy.originAnswer? origin with
    | none => simp only [hanswer, Verdict.actual]
    | some answer => cases hmethod : policy.allowsMethod m <;> simp [hanswer, hmethod, Verdict.actual]

theorem decideAnnounced_eq (source : Source) (origin : String) (m : Method) (path : String)
    (requested : Option String) :
    decideAnnounced source origin m path requested = (verdict source origin m path).announced requested := by
  rw [decideAnnounced, verdict]
  cases source.find? m path with
  | none => rfl
  | some policy =>
    cases hanswer : policy.originAnswer? origin with
    | none => simp only [hanswer, Verdict.announced]
    | some answer => cases hmethod : policy.allowsMethod m <;> simp [hanswer, hmethod, Verdict.announced]

/-- What is decided about a request from another origin. -/
theorem decide_of_foreign {r : Request} (horigin : r.origin? = some origin) (hforeign : isSameOrigin r origin = false) :
    decide source r = match r.corsMethod? with
      | none => .deny .method true
      | some m =>
        if r.isPreflight then (verdict source origin m r.path).announced (r.header? "access-control-request-headers")
        else (verdict source origin m r.path).actual := by
  simp only [decide, horigin, hforeign, Bool.false_eq_true, if_false, Request.corsMethod?, decidePreflight,
    decideActual_eq, decideAnnounced_eq]
  cases r.isPreflight with
  | false => rfl
  | true => cases Method.parse? ((r.header? "access-control-request-method").getD "") <;> rfl

/-! ## Headers -/

/-- The names of the header fields that tell a browser who may read the answer. -/
def readerNames : List String :=
  ["access-control-allow-origin", "access-control-allow-credentials", "vary"]

/-- The names of the header fields that only a preflight or only a script has a use for. -/
def detailNames : List String :=
  ["access-control-allow-methods", "access-control-allow-headers", "access-control-max-age",
    "access-control-expose-headers"]

theorem readerNames_pairwise : readerNames.Pairwise (Text.sameIgnoringCase · · = false) := by
  simp only [Text.sameIgnoringCase_eq]
  decide

theorem detailNames_ne_readerNames :
    ∀ name ∈ readerNames, ∀ detail ∈ detailNames, Text.sameIgnoringCase detail name = false := by
  simp only [Text.sameIgnoringCase_eq]
  decide

/-- What is decided about another origin touches neither the place nor the cookies. -/
theorem names_ne_redirect : ∀ name ∈ ["location", "set-cookie"], ∀ other ∈ readerNames ++ detailNames,
    Text.sameIgnoringCase other name = false := by
  simp only [Text.sameIgnoringCase_eq]
  decide

/-- The headers tell a browser who may read the answer, as the policy has it, and give details besides. -/
def SpeaksFor (policy : Policy) (answer : String) (headers : Headers) : Prop :=
  ∃ details, headers = commonHeaders policy answer ++ details ∧ ∀ field ∈ details, field.1 ∈ detailNames

theorem speaksFor_preflight (policy : Policy) (answer : String) (requested : Option String) :
    SpeaksFor policy answer (preflightHeaders policy answer requested) := by
  refine ⟨_, by rw [preflightHeaders, List.append_assoc, List.append_assoc], fun field hfield => ?_⟩
  rcases List.mem_append.1 hfield with h | h
  · simp [List.mem_singleton.1 h, detailNames]
  rcases List.mem_append.1 h with h | h
  · obtain ⟨-, rfl⟩ : _ ∧ field = ("access-control-allow-headers", headerAnswer policy requested) := by simpa using h
    simp [detailNames]
  · split at h
    · simp [List.mem_singleton.1 h, detailNames]
    · cases h

theorem speaksFor_actual (policy : Policy) (answer : String) :
    SpeaksFor policy answer (commonHeaders policy answer ++ (if policy.exposed.isEmpty then []
      else [("access-control-expose-headers", String.intercalate ", " policy.exposed)])) := by
  refine ⟨_, rfl, fun field hfield => ?_⟩
  obtain ⟨-, rfl⟩ : _ ∧ field = ("access-control-expose-headers", String.intercalate ", " policy.exposed) := by
    simpa using hfield
  simp [detailNames]

theorem commonHeaders_names (policy : Policy) (answer : String) :
    ∀ field ∈ commonHeaders policy answer, field.1 ∈ readerNames := by
  intro field hfield
  rw [commonHeaders, List.append_assoc] at hfield
  rcases List.mem_append.1 hfield with h | h
  · simp [List.mem_singleton.1 h, readerNames]
  rcases List.mem_append.1 h with h | h
  · obtain ⟨-, rfl⟩ : _ ∧ field = ("access-control-allow-credentials", "true") := by simpa using h
    simp [readerNames]
  · obtain ⟨-, rfl⟩ : _ ∧ field = ("vary", "Origin") := by simpa using h
    simp [readerNames]

namespace SpeaksFor

variable {policy : Policy} {answer : String} {headers : Headers}

/-- Details add nothing to what a browser is told about readers. -/
theorem getAll_reader (h : SpeaksFor policy answer headers) {name : String} (hname : name ∈ readerNames) :
    headers.getAll name = (commonHeaders policy answer).getAll name := by
  obtain ⟨details, rfl, hdetails⟩ := h
  rw [Headers.getAll_append, Headers.getAll_eq_nil_of_names hdetails (detailNames_ne_readerNames name hname),
    List.append_nil]

/-- Nothing else is said. -/
theorem getAll_other (h : SpeaksFor policy answer headers) {name : String}
    (hname : ∀ other ∈ readerNames ++ detailNames, Text.sameIgnoringCase other name = false) :
    headers.getAll name = [] := by
  obtain ⟨details, rfl, hdetails⟩ := h
  refine Headers.getAll_eq_nil_of_names (fun field hfield => ?_) hname
  rcases List.mem_append.1 hfield with h | h
  · exact List.mem_append_left _ (commonHeaders_names policy answer field h)
  · exact List.mem_append_right _ (hdetails field h)

end SpeaksFor

theorem getAll_commonHeaders (policy : Policy) (answer name : String) :
    (commonHeaders policy answer).getAll name =
      (if Text.sameIgnoringCase "access-control-allow-origin" name then [answer] else []) ++
        (if policy.credentials = true ∧ Text.sameIgnoringCase "access-control-allow-credentials" name then ["true"]
          else []) ++
        (if answer ≠ "*" ∧ Text.sameIgnoringCase "vary" name then ["Origin"] else []) := by
  rw [commonHeaders, Headers.getAll_append, Headers.getAll_append]
  congr 1
  · congr 1
    · rw [Headers.getAll_singleton]
    · cases policy.credentials <;> simp [Headers.getAll_singleton]
  · by_cases hanswer : answer = "*" <;> simp [hanswer, Headers.getAll_singleton]

/-- One origin is named, or all are. -/
theorem getAll_allowOrigin (policy : Policy) (answer : String) :
    (commonHeaders policy answer).getAll "access-control-allow-origin" = [answer] := by
  have hnames := readerNames_pairwise
  simp only [readerNames, List.pairwise_cons, List.forall_mem_cons] at hnames
  simp [getAll_commonHeaders, Text.sameIgnoringCase_self, Text.sameIgnoringCase_comm _ "access-control-allow-origin",
    hnames]

/-! ## What is allowed -/

/-- The request comes from another origin, and the policy for its path and its method allows both that origin and that
method; the answer is to name `answer`. -/
def Source.Grants (source : Source) (r : Request) (answer : String) : Prop :=
  ∃ origin m policy, r.origin? = some origin ∧ isSameOrigin r origin = false ∧ r.corsMethod? = some m ∧
    source.find? m r.path = some policy ∧ policy.origins.allows origin = true ∧ policy.allowsMethod m = true ∧
    answer = if policy.origins.isAny then "*" else origin

/-- Only requests that the policies have a say in are allowed or denied. -/
theorem exists_foreign_of_decide {r : Request} (h : decide source r ≠ .notCrossOrigin) :
    ∃ origin, r.origin? = some origin ∧ isSameOrigin r origin = false := by
  unfold decide at h
  cases horigin : r.origin? with
  | none => simp [horigin] at h
  | some origin =>
    cases hsame : isSameOrigin r origin with
    | true => simp [horigin, hsame] at h
    | false => exact ⟨origin, rfl, hsame⟩

/-- What is allowed has been granted under the policy for its path and its method, and the answer says so. -/
theorem speaksFor_of_decide {r : Request} {headers : Headers} {preflight : Bool}
    (h : decide source r = .allow headers preflight) :
    ∃ origin m policy, r.origin? = some origin ∧ isSameOrigin r origin = false ∧ r.corsMethod? = some m ∧
      source.find? m r.path = some policy ∧ policy.origins.allows origin = true ∧ policy.allowsMethod m = true ∧
      SpeaksFor policy (if policy.origins.isAny then "*" else origin) headers := by
  obtain ⟨origin, horigin, hforeign⟩ := exists_foreign_of_decide (by simp [h] : decide source r ≠ .notCrossOrigin)
  rw [decide_of_foreign horigin hforeign] at h
  cases hmethod : r.corsMethod? with
  | none => simp [hmethod] at h
  | some m =>
    rw [hmethod] at h
    cases hverdict : verdict source origin m r.path
    case granted policy answer =>
      obtain ⟨hfind, hallows, hallowed, rfl⟩ := verdict_eq_granted_iff.1 hverdict
      refine ⟨origin, m, policy, horigin, hforeign, rfl, hfind, hallows, hallowed, ?_⟩
      simp only [hverdict, Verdict.actual, Verdict.announced] at h
      split at h
      · split at h
        · cases h
        · cases h
          exact speaksFor_preflight policy _ _
      · cases h
        exact speaksFor_actual policy _
    all_goals
      simp only [hverdict, Verdict.actual, Verdict.announced] at h
      split at h <;> cases h

theorem granted_of_decide {r : Request} {headers : Headers} {preflight : Bool}
    (h : decide source r = .allow headers preflight) :
    ∃ policy answer, source.Grants r answer ∧ SpeaksFor policy answer headers := by
  obtain ⟨origin, m, policy, horigin, hforeign, hmethod, hfind, hallows, hallowed, hspeaks⟩ := speaksFor_of_decide h
  exact ⟨policy, _, ⟨origin, m, policy, horigin, hforeign, hmethod, hfind, hallows, hallowed, rfl⟩, hspeaks⟩

theorem grants_of_decide {r : Request} {headers : Headers} {preflight : Bool}
    (h : decide source r = .allow headers preflight) :
    ∃ answer, source.Grants r answer ∧ headers.getAll "access-control-allow-origin" = [answer] := by
  obtain ⟨policy, answer, hgrants, hspeaks⟩ := granted_of_decide h
  exact ⟨answer, hgrants, by rw [hspeaks.getAll_reader List.mem_cons_self, getAll_allowOrigin]⟩

/-- Whether the decision is about a preflight, where that is of any consequence. -/
def Decision.preflight? : Decision → Option Bool
  | .allow _ preflight => some preflight
  | .deny _ preflight => some preflight
  | _ => none

theorem Verdict.preflight?_actual {v : Verdict} {b : Bool} (h : v.actual.preflight? = some b) : b = false := by
  cases v <;> cases h <;> rfl

theorem Verdict.preflight?_announced {v : Verdict} {requested : Option String} {b : Bool}
    (h : (v.announced requested).preflight? = some b) : b = true := by
  cases v
  case granted policy answer =>
    rw [announced] at h
    split at h <;> cases h <;> rfl
  all_goals cases h <;> rfl

/-- Decisions about preflights are marked as such. -/
theorem isPreflight_of_decide {r : Request} {b : Bool} (h : (decide source r).preflight? = some b) :
    b = r.isPreflight := by
  have hne : decide source r ≠ .notCrossOrigin := by
    intro hsame
    simp [hsame, Decision.preflight?] at h
  obtain ⟨origin, horigin, hforeign⟩ := exists_foreign_of_decide hne
  rw [decide_of_foreign horigin hforeign, Request.corsMethod?] at h
  cases hpreflight : r.isPreflight with
  | false =>
    simp only [hpreflight, Bool.false_eq_true, if_false] at h
    exact Verdict.preflight?_actual h
  | true =>
    simp only [hpreflight, if_true] at h
    split at h
    · cases h
      rfl
    · exact Verdict.preflight?_announced h

theorem preflight?_decide {r : Request} (hpreflight : r.isPreflight = true)
    (h : (decide source r).isAllowed = true ∨ (decide source r).isDenied = true) :
    (decide source r).preflight? = some true := by
  have hsome : ∃ b, (decide source r).preflight? = some b := by
    revert h
    cases decide source r <;> simp [Decision.isAllowed, Decision.isDenied, Decision.preflight?]
  obtain ⟨b, hb⟩ := hsome
  rw [hb, isPreflight_of_decide hb, hpreflight]

/-! ## Asking first -/

namespace Decision

/-- The request is allowed, and the answer carries these headers. -/
def Allows (d : Decision) (headers : Headers) : Prop :=
  ∃ preflight, d = .allow headers preflight

/-- The request is denied for this reason. -/
def Denies (d : Decision) (reason : DenyReason) : Prop :=
  ∃ preflight, d = .deny reason preflight

/-- What a browser is told when it asks agrees with what becomes of the request that it asks for. A request may be
allowed whose preflight has been denied for its headers, since nobody looks at the headers of an actual request. -/
structure Agrees (asked sent : Decision) : Prop where
  noPolicy : asked = .noPolicy ↔ sent = .noPolicy
  origin : asked.Denies .origin ↔ sent.Denies .origin
  method : asked.Denies .method ↔ sent.Denies .method
  allowed : (∃ headers, sent.Allows headers) ↔ (∃ headers, asked.Allows headers) ∨ asked.Denies .headers
  readers : ∀ headers headers', asked.Allows headers → sent.Allows headers' →
    ∀ name ∈ readerNames, headers.getAll name = headers'.getAll name

end Decision

/-- The request is what a browser sends after it has asked for it: to the same host and path, on behalf of the same
origin, with the method that it has announced. -/
structure Follows (asked sent : Request) (m : Method) : Prop where
  asks : asked.Announces m
  method : sent.method = m
  actual : sent.isPreflight = false
  origin : sent.origin? = asked.origin?
  host : sent.header? "host" = asked.header? "host"
  path : sent.path = asked.path

theorem Decision.allows_allow {headers headers' : Headers} {preflight : Bool} :
    (Decision.allow headers preflight).Allows headers' ↔ headers' = headers := by
  constructor
  · rintro ⟨_, ⟨⟩⟩
    rfl
  · rintro rfl
    exact ⟨preflight, rfl⟩

/-- Whatever the verdict, both forms of it agree. -/
theorem Verdict.announced_agrees (v : Verdict) (requested : Option String) : (v.announced requested).Agrees v.actual := by
  cases v
  case granted policy answer =>
    by_cases hheaders : (requested.bind policy.firstRejected?).isSome = true
    · rw [announced, if_pos hheaders]
      constructor <;> simp [actual, Decision.Allows, Decision.Denies]
    · rw [announced, if_neg hheaders]
      refine ⟨by simp [actual], by simp [actual, Decision.Denies], by simp [actual, Decision.Denies],
        by simp [actual, Decision.Allows], ?_⟩
      intro headers headers' hasked hsent name hname
      rw [Decision.allows_allow.1 hasked, Decision.allows_allow.1 hsent,
        (speaksFor_preflight policy answer requested).getAll_reader hname,
        (speaksFor_actual policy answer).getAll_reader hname]
  all_goals constructor <;> simp [announced, actual, Decision.Allows, Decision.Denies]

/-- What a preflight is told agrees with what becomes of the request that follows it, whatever header names have been
asked for. -/
theorem decide_preflight_agrees (source : Source) {asked sent : Request} (h : Follows asked sent m)
    (horigin : asked.origin? = some origin) (hforeign : isSameOrigin asked origin = false) :
    (decide source asked).Agrees (decide source sent) := by
  have hpreflight := h.asks.isPreflight (Option.isSome_of_eq_some horigin)
  have hasked := h.asks.corsMethod? (Option.isSome_of_eq_some horigin)
  have hsent : sent.corsMethod? = some m := by
    rw [Request.corsMethod?, h.actual, if_neg Bool.false_ne_true, h.method]
  have hforeign' : isSameOrigin sent origin = false := by rwa [isSameOrigin, h.host]
  rw [decide_of_foreign horigin hforeign, decide_of_foreign (h.origin.trans horigin) hforeign', hasked, hsent]
  simp only [hpreflight, h.actual, h.path, if_true, Bool.false_eq_true, if_false]
  exact Verdict.announced_agrees _ _

/-- Everything may be read by everybody. -/
def openSource : Source :=
  .paths ⟨[(⟨"/**", [.anyDepth]⟩, .permitDefaults)]⟩

/-- A page of another site is about to read `/`. -/
def foreignPreflight : Request where
  method := .options
  path := "/"
  headers := [("origin", "https://shop.example"), ("access-control-request-method", "GET")]

/-- A page of another site reads `/`. -/
def foreignGet : Request where
  method := .get
  path := "/"
  headers := [("origin", "https://shop.example")]

/-- The fields by which a browser asks have different names, and none of them is `host`. -/
theorem askingNames_ne :
    (∀ name ∈ ["origin", "access-control-request-method", "access-control-request-headers"],
      Text.sameIgnoringCase name "host" = false) ∧
    Text.sameIgnoringCase "origin" "access-control-request-method" = false ∧
    ∀ name ∈ ["origin", "access-control-request-method"],
      Text.sameIgnoringCase name "access-control-request-headers" = false := by
  simp only [Text.sameIgnoringCase_eq]
  decide

theorem header?_foreignPreflight : foreignPreflight.header? "host" = none ∧
    foreignPreflight.header? "access-control-request-method" = some "GET" := by
  obtain ⟨hhost, horigin, -⟩ := askingNames_ne
  simp only [List.forall_mem_cons] at hhost
  simp [foreignPreflight, Request.header?, Headers.get?, Headers.named, hhost, horigin, Text.sameIgnoringCase_self]

theorem announces_foreignPreflight : foreignPreflight.Announces .get :=
  ⟨rfl, header?_foreignPreflight.2⟩

theorem follows_foreignGet : Follows foreignPreflight foreignGet .get where
  asks := announces_foreignPreflight
  method := rfl
  actual := by decide
  origin := by decide +kernel
  host := Eq.trans (by decide +kernel) header?_foreignPreflight.1.symm
  path := rfl

theorem foreign_foreignPreflight : foreignPreflight.origin? = some "https://shop.example" ∧
    isSameOrigin foreignPreflight "https://shop.example" = false := by
  refine ⟨by decide +kernel, ?_⟩
  rw [isSameOrigin, header?_foreignPreflight.1]

theorem isPreflight_foreignPreflight : foreignPreflight.isPreflight = true :=
  announces_foreignPreflight.isPreflight (Option.isSome_of_eq_some foreign_foreignPreflight.1)

theorem isAllowed_foreignPreflight : (decide openSource foreignPreflight).isAllowed = true := by
  have hmethod := announces_foreignPreflight.corsMethod? (Option.isSome_of_eq_some foreign_foreignPreflight.1)
  have hverdict : verdict openSource "https://shop.example" .get "/" = .granted .permitDefaults "*" :=
    verdict_eq_granted_iff.2 ⟨rfl, rfl, by decide, rfl⟩
  have hheaders (requested : Option String) : requested.bind Policy.permitDefaults.firstRejected? = none := by
    cases requested <;> simp [Policy.firstRejected?, Policy.allowsAllHeaders, Policy.permitDefaults]
  rw [decide_of_foreign foreign_foreignPreflight.1 foreign_foreignPreflight.2, hmethod]
  simp only [isPreflight_foreignPreflight, if_true]
  rw [show foreignPreflight.path = "/" from rfl, hverdict, Verdict.announced, hheaders]
  rfl

/-- The page is told that it may read, and then it may. -/
theorem foreignGet_agrees : Follows foreignPreflight foreignGet .get ∧
    (decide openSource foreignPreflight).isAllowed = true ∧
    (decide openSource foreignPreflight).Agrees (decide openSource foreignGet) :=
  ⟨follows_foreignGet, isAllowed_foreignPreflight, decide_preflight_agrees openSource follows_foreignGet
    foreign_foreignPreflight.1 foreign_foreignPreflight.2⟩

end Cors

end Portcullis
