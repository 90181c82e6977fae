import Portcullis.Proofs.Cors.Verdict
import Portcullis.Proofs.PathPattern.Choice

/-!
# Credentials and the wildcard

Two notions of a wildcard meet here. Building a policy looks at what is configured: a policy that allows every origin by
declaration carries no credentials (`Policy.Built.isAny_eq_false`), and a source only hands out policies that have been
built (`Source.Built.find?`). The answer to a browser looks at the text of the origin that it names, and a policy that
tests origins names the origin of the request, whatever its text. So both agree except for the text `*`, sent as an
origin to a policy whose patterns or whose test let it pass (`decide_credentials_and_vary`).
-/

namespace Portcullis

namespace Cors

/-! ## Policies that have been built -/

/-- The policy is the one for reading by everybody, or a draft has been built into it. -/
inductive Policy.Built : Policy → Prop
  | defaults : Built .permitDefaults
  | drafted {d : Draft} {origins : Origins} {policy : Policy} (h : d.buildFor origins = .ok policy) : Built policy

/-- A draft is built only where no fault is found with its credentials. -/
theorem Draft.eq_of_buildFor {d : Draft} {origins : Origins} {policy : Policy} (h : d.buildFor origins = .ok policy) :
    policy.origins = origins ∧ policy.credentials = d.credentials ∧
      (d.credentials = true → credentialFault? origins = none) := by
  rw [buildFor] at h
  split at h
  · cases h
  case h_2 hfault =>
    cases hmethods : d.methods.mapM readMethod with
    | error e => simp [hmethods, bind, Except.bind] at h
    | ok methods =>
      simp only [hmethods, bind, Except.bind, pure, Except.pure, Except.ok.injEq] at h
      subst h
      exact ⟨rfl, rfl, fun hcredentials => by rwa [if_pos hcredentials] at hfault⟩

namespace Policy.Built

variable {policy : Policy}

theorem of_build {d : Draft} (h : d.build = .ok policy) : policy.Built := by
  rw [Draft.build] at h
  cases horigins : d.readOrigins with
  | error e => simp [horigins, bind, Except.bind] at h
  | ok origins =>
    simp only [horigins, bind, Except.bind] at h
    exact .drafted h

/-- Credentials never go to every origin by declaration. -/
theorem isAny_eq_false (h : policy.Built) (hcredentials : policy.credentials = true) :
    policy.origins.isAny = false := by
  cases h with
  | defaults => cases hcredentials
  | drafted h =>
    obtain ⟨rfl, hsame, hfault⟩ := Draft.eq_of_buildFor h
    have hnone := hfault (hsame ▸ hcredentials)
    cases horigins : policy.origins with
    | any => simp [horigins, Draft.credentialFault?] at hnone
    | _ => rfl

end Policy.Built

/-- A table that policies have been registered in, one after the other. -/
inductive PathTable.Built : PathTable → Prop
  | empty : Built {}
  | register {t t' : PathTable} {pattern : String} {policy : Policy} (ht : Built t) (hpolicy : policy.Built)
      (h : t.register pattern policy = .ok t') : Built t'

theorem PathTable.mem_of_mem_put {pattern : PathPattern} {policy : Policy} {entries : List (PathPattern × Policy)}
    {entry : PathPattern × Policy} (h : entry ∈ put pattern policy entries) :
    entry.2 = policy ∨ entry ∈ entries := by
  induction entries with
  | nil => exact .inl (by rw [List.mem_singleton.1 h])
  | cons head rest ih =>
    rw [put] at h
    split at h
    · rcases List.mem_cons.1 h with rfl | hrest
      · exact .inl rfl
      · exact .inr (List.mem_cons_of_mem _ hrest)
    · rcases List.mem_cons.1 h with rfl | hrest
      · exact .inr List.mem_cons_self
      · exact (ih hrest).imp_right (List.mem_cons_of_mem _)

theorem PathTable.Built.policies {t : PathTable} (h : t.Built) : ∀ entry ∈ t.entries, entry.2.Built := by
  induction h with
  | empty => exact fun entry hentry => by cases hentry
  | @register t t' pattern policy ht hpolicy h ih =>
    intro entry hentry
    rw [PathTable.register] at h
    cases hpattern : PathPattern.ofSetting pattern with
    | error e => simp [hpattern, bind, Except.bind] at h
    | ok read =>
      simp only [hpattern, bind, Except.bind, pure, Except.pure, Except.ok.injEq] at h
      subst h
      rcases PathTable.mem_of_mem_put hentry with rfl | hold
      · exact hpolicy
      · exact ih entry hold

/-- A table that routes have been registered in, one after the other. -/
inductive RouteTable.Built : RouteTable → Prop
  | start {shared : Policy} (hshared : shared.Built) : Built { shared }
  | register {t t' : RouteTable} {pattern : String} {methods : List Method} {policy : RoutePolicy} (ht : Built t)
      (h : t.register pattern methods policy = .ok t') : Built t'

theorem RouteTable.built_of_policyOf {t : RouteTable} (hshared : t.shared.Built) {said : RoutePolicy} {policy : Policy}
    (h : t.policyOf said = .ok (some policy)) : policy.Built := by
  cases said with
  | inherit =>
    obtain rfl : t.shared = policy := by simpa [policyOf] using h
    exact hshared
  | disabled => simp [policyOf] at h
  | own draft =>
    rw [policyOf] at h
    cases hbuilt : draft.buildFor t.shared.origins with
    | error e => simp [hbuilt, Functor.map, Except.map] at h
    | ok own =>
      obtain rfl : own = policy := by simpa [hbuilt, Functor.map, Except.map] using h
      exact .drafted hbuilt

theorem RouteTable.Built.policies {t : RouteTable} (h : t.Built) :
    t.shared.Built ∧ ∀ route ∈ t.routes, ∀ policy, route.policy = some policy → policy.Built := by
  induction h with
  | start hshared => exact ⟨hshared, fun route hroute => by cases hroute⟩
  | @register t t' pattern methods said ht h ih =>
    rw [RouteTable.register] at h
    cases hpattern : PathPattern.ofSetting pattern with
    | error e => simp [hpattern, bind, Except.bind] at h
    | ok read =>
      cases hsaid : t.policyOf said with
      | error e => simp [hpattern, hsaid, bind, Except.bind] at h
      | ok found =>
        simp only [hpattern, hsaid, bind, Except.bind, pure, Except.pure, Except.ok.injEq] at h
        subst h
        refine ⟨ih.1, fun route hroute policy hpolicy => ?_⟩
        rcases List.mem_append.1 hroute with hold | hnew
        · exact ih.2 route hold policy hpolicy
        · obtain rfl := List.mem_singleton.1 hnew
          obtain rfl : found = some policy := hpolicy
          exact RouteTable.built_of_policyOf ih.1 hsaid

/-- The source has been filled with policies that were built. -/
def Source.Built : Source → Prop
  | .paths table => table.Built
  | .routes table => table.Built

/-- A source that has been filled with policies that were built hands out no others. -/
theorem Source.Built.find? {source : Source} (h : source.Built) {m : Method} {path : String} {policy : Policy}
    (hfind : source.find? m path = some policy) : policy.Built := by
  cases source with
  | paths table =>
    obtain ⟨entry, hentry, rfl⟩ := Option.map_eq_some_iff.1 hfind
    exact PathTable.Built.policies h entry (PathPattern.mem_of_mostSpecific hentry).1
  | routes table =>
    obtain ⟨entry, hentry, hpolicy⟩ := Option.bind_eq_some_iff.1 hfind
    obtain ⟨route, hroute, rfl⟩ := List.mem_map.1 (PathPattern.mem_of_mostSpecific hentry).1
    exact (RouteTable.Built.policies h).2 route (List.mem_filter.1 hroute).1 policy hpolicy

/-! ## The text that is no origin -/

theorem eq_star_of_toLower {c : Char} (h : c.toLower = '*') : c = '*' := by
  change dite (c.val ≥ 'A'.val ∧ c.val ≤ 'Z'.val) _ _ = '*' at h
  split at h
  case isTrue hupper =>
    -- no capital letter lies as far below the star as small letters lie above capitals
    have hval : c.val + ('a'.val - 'A'.val) = '*'.val := congrArg Char.val h
    have hc : c.val = '*'.val - ('a'.val - 'A'.val) := by rw [← hval, UInt32.add_sub_cancel]
    exact absurd (hc ▸ hupper.1) (by decide)
  case isFalse => exact h

theorem eq_star_of_sameIgnoringCase {name : String} (h : Text.sameIgnoringCase name "*" = true) : name = "*" := by
  have hmap (s : String) : s.toLower = s.map Char.toLower := rfl
  have hlower : name.toList.map Char.toLower = ['*'] := by
    simpa [Text.sameIgnoringCase, hmap] using congrArg String.toList (beq_iff_eq.1 h)
  obtain ⟨c, hname, hc⟩ := List.map_eq_singleton_iff.1 hlower
  exact String.toList_inj.1 (hname.trans (by rw [eq_star_of_toLower hc]; rfl))

/-- Of the origins that are read from a list, only patterns let the text `*` pass where not everything passes. -/
theorem Origins.exists_pattern_of_allows_star {names : List String} {origins : Origins} (h : ofList names = .ok origins)
    (hany : origins.isAny = false) (hallows : origins.allows "*" = true) : ∃ name ∈ names, '*' ∈ name.toList := by
  rw [ofList] at h
  split at h
  · cases h
    cases hany
  split at h
  case isTrue hpattern => simpa using hpattern
  case isFalse hstar _ =>
    split at h
    · cases h
    · cases h
      obtain ⟨name, hname, hsame⟩ := List.any_eq_true.1 hallows
      rw [eq_star_of_sameIgnoringCase hsame] at hname
      exact absurd (List.contains_iff_mem.2 hname) hstar

/-! ## What a browser is told -/

theorem getAll_allowCredentials (policy : Policy) (answer : String) :
    (commonHeaders policy answer).getAll "access-control-allow-credentials" =
      if policy.credentials then ["true"] else [] := by
  have hnames := readerNames_pairwise
  simp only [readerNames, List.pairwise_cons, List.forall_mem_cons] at hnames
  simp [getAll_commonHeaders, Text.sameIgnoringCase_self, Text.sameIgnoringCase_comm "vary", hnames]

theorem getAll_vary (policy : Policy) (answer : String) :
    (commonHeaders policy answer).getAll "vary" = if answer = "*" then [] else ["Origin"] := by
  have hnames := readerNames_pairwise
  simp only [readerNames, List.pairwise_cons, List.forall_mem_cons] at hnames
  simp [getAll_commonHeaders, Text.sameIgnoringCase_self, hnames]

/-- Every page may read the answer, and with the credentials of whoever looks at it. -/
def GivesAway (headers : Headers) : Prop :=
  "*" ∈ headers.getAll "access-control-allow-origin" ∧ "true" ∈ headers.getAll "access-control-allow-credentials"

/-- Caches are told that the answer depends on the origin. -/
def VariesByOrigin (headers : Headers) : Prop :=
  "Origin" ∈ headers.getAll "vary"

namespace SpeaksFor

variable {policy : Policy} {answer : String} {headers : Headers}

theorem givesAway_iff (h : SpeaksFor policy answer headers) :
    GivesAway headers ↔ answer = "*" ∧ policy.credentials = true := by
  rw [GivesAway, h.getAll_reader (by simp [readerNames]), h.getAll_reader (by simp [readerNames]), getAll_allowOrigin,
    getAll_allowCredentials]
  cases policy.credentials <;> simp [eq_comm]

theorem variesByOrigin_iff (h : SpeaksFor policy answer headers) : VariesByOrigin headers ↔ answer ≠ "*" := by
  rw [VariesByOrigin, h.getAll_reader (by simp [readerNames]), getAll_vary]
  by_cases hanswer : answer = "*" <;> simp [hanswer]

end SpeaksFor

/-- What an allowed answer says about credentials and about caches, for a source that has been filled with policies that
were built. Apart from the text `*` sent as an origin, credentials never go to everybody, and the answer varies with the
origin just where the policy does not allow every origin by declaration. That text passes where patterns or a test let
it, and never where the origins have been read from a list without wildcards. -/
theorem decide_credentials_and_vary {source : Source} (h : source.Built) {r : Request} {headers : Headers}
    {preflight : Bool} (hallowed : decide source r = .allow headers preflight) :
    ∃ origin m policy, r.origin? = some origin ∧ r.corsMethod? = some m ∧ source.find? m r.path = some policy ∧
      (GivesAway headers ↔ origin = "*" ∧ policy.credentials = true) ∧
      (VariesByOrigin headers ↔ policy.origins.isAny = false ∧ origin ≠ "*") ∧
      (origin = "*" → policy.origins.isAny = false →
        ∀ names, Origins.ofList names = .ok policy.origins → ∃ name ∈ names, '*' ∈ name.toList) := by
  obtain ⟨origin, m, policy, horigin, -, hmethod, hfind, hallows, -, hspeaks⟩ := speaksFor_of_decide hallowed
  refine ⟨origin, m, policy, horigin, hmethod, hfind, ?_, ?_, ?_⟩
  · rw [hspeaks.givesAway_iff]
    refine and_congr_left fun hcredentials => ?_
    rw [(h.find? hfind).isAny_eq_false hcredentials, if_neg Bool.false_ne_true]
  · rw [hspeaks.variesByOrigin_iff]
    cases policy.origins.isAny <;> simp
  · rintro rfl hany names hnames
    exact Origins.exists_pattern_of_allows_star hnames hany hallows

/-! ## A pattern that lets the star pass -/

/-- A draft for all origins, written as a pattern. -/
def doubleStarDraft : Draft where
  origins := ["**"]
  methods := ["GET"]
  credentials := true

/-- What it is built into. -/
def doubleStarPolicy : Policy where
  origins := .patterns [⟨"**"⟩]
  methods := [.get]
  headers := ["Content-Type", "Authorization"]
  exposed := []
  credentials := true
  maxAge := none

/-- The policy holds for all paths. -/
def doubleStarSource : Source :=
  .paths ⟨[(⟨"/**", [.anyDepth]⟩, doubleStarPolicy)]⟩

/-- A request that names the text for all origins as its own. -/
def starGet : Request where
  method := .get
  path := "/"
  headers := [("origin", "*")]

/-- What the answer to it says. -/
def starHeaders : Headers :=
  [("access-control-allow-origin", "*"), ("access-control-allow-credentials", "true")]

theorem build_doubleStarDraft : doubleStarDraft.build = .ok doubleStarPolicy := by
  have horigins : Origins.ofList ["**"] = .ok (.patterns [⟨"**"⟩]) := by
    rw [Origins.ofList, if_neg (by decide), if_pos (by decide)]
    rfl
  have hmethods : ["GET"].mapM readMethod = .ok [.get] := by decide +kernel
  simp [Draft.build, Draft.readOrigins, doubleStarDraft, horigins, Draft.buildFor, Draft.credentialFault?, hmethods,
    bind, Except.bind, pure, Except.pure, doubleStarPolicy]

theorem built_doubleStarSource : doubleStarSource.Built := by
  have hpattern : PathPattern.ofSetting "/**" = .ok ⟨"/**", [.anyDepth]⟩ := by decide
  have hregister : PathTable.register {} "/**" doubleStarPolicy = .ok ⟨[(⟨"/**", [.anyDepth]⟩, doubleStarPolicy)]⟩ := by
    rw [PathTable.register, hpattern]
    rfl
  exact .register .empty (.of_build build_doubleStarDraft) hregister

theorem decide_starGet : decide doubleStarSource starGet = .allow starHeaders false := by
  have horigin : starGet.origin? = some "*" := by decide +kernel
  have hhost : starGet.header? "host" = none := by decide +kernel
  have hforeign : isSameOrigin starGet "*" = false := by rw [isSameOrigin, hhost]
  have hactual : starGet.isPreflight = false := by decide
  have hgranted : verdict doubleStarSource "*" .get "/" = .granted doubleStarPolicy "*" :=
    verdict_eq_granted_iff.2 ⟨rfl, by decide, by decide, rfl⟩
  rw [decide_of_foreign horigin hforeign, Request.corsMethod?, hactual, if_neg Bool.false_ne_true]
  show (verdict doubleStarSource "*" .get "/").actual = _
  rw [hgranted]
  rfl

theorem speaksFor_starHeaders : SpeaksFor doubleStarPolicy "*" starHeaders :=
  ⟨[], rfl, fun field hfield => by cases hfield⟩

/-- The policy does not allow every origin by declaration, and still the answer gives everything away and tells caches
nothing. -/
theorem doubleStar_gives_away :
    doubleStarSource.Built ∧ doubleStarSource.find? .get starGet.path = some doubleStarPolicy ∧
      doubleStarPolicy.origins.isAny = false ∧ decide doubleStarSource starGet = .allow starHeaders false ∧
      GivesAway starHeaders ∧ ¬VariesByOrigin starHeaders :=
  ⟨built_doubleStarSource, rfl, rfl, decide_starGet, speaksFor_starHeaders.givesAway_iff.2 ⟨rfl, rfl⟩,
    fun hvaries => speaksFor_starHeaders.variesByOrigin_iff.1 hvaries rfl⟩

/-- Both follow from the text of the origin alone. -/
theorem doubleStar_gives_away_for_star :
    doubleStarSource.Built ∧ decide doubleStarSource starGet = .allow starHeaders false ∧
      ∃ origin m policy, starGet.origin? = some origin ∧ starGet.corsMethod? = some m ∧
        doubleStarSource.find? m starGet.path = some policy ∧
        (GivesAway starHeaders ↔ origin = "*" ∧ policy.credentials = true) ∧
        (VariesByOrigin starHeaders ↔ policy.origins.isAny = false ∧ origin ≠ "*") ∧
        (origin = "*" → policy.origins.isAny = false →
          ∀ names, Origins.ofList names = .ok policy.origins → ∃ name ∈ names, '*' ∈ name.toList) :=
  ⟨built_doubleStarSource, decide_starGet, decide_credentials_and_vary built_doubleStarSource decide_starGet⟩

end Cors

end Portcullis
