import Portcullis.Proofs.Cors.Credentials

/-!
# Registering routes

Routes are registered by calls, some of which may fail (`RouteTable.after`). A route has the policy for all routes, or
none, or one of its own that is built for the origins of all routes. For a method and a path the table answers with
what the foremost of the routes has that take such a request (`RouteTable.Found`): it says most about the path, and of
those that say equally much it was registered first.

* `Draft.buildFor_eq_error_iff`: why a policy is not built.
* `RouteTable.register_of_gives`, `RouteTable.register_of_fails`: what a call does; `RouteTable.registered_after`: what
  the table has after some calls.
* `RouteTable.find?_eq_iff`: what it answers.
* `RouteTable.routed_by_history`: all this, and what there is to say about the policies that it hands out.
-/

namespace Portcullis.Cors

/-! ## Building for given origins -/

/-- Some origins are allowed by their names, or by what they look like: neither is everybody allowed by declaration,
nor nobody. -/
def Origins.Selective (origins : Origins) : Prop :=
  origins.isAny = false ∧ origins ≠ .exact []

namespace Draft

variable {d : Draft} {origins : Origins} {fault : SetupError}

/-- Why no policy can be built from a draft for these origins. -/
inductive Flawed (d : Draft) (origins : Origins) : SetupError → Prop
  | everybody (hcredentials : d.credentials = true) (horigins : origins = .any) :
    Flawed d origins .wildcardWithCredentials
  | nobody (hcredentials : d.credentials = true) (horigins : origins = .exact []) :
    Flawed d origins .noOriginsWithCredentials
  /-- The first of the names that name no method. -/
  | method {named rest : List String} {name : String} (hcredentials : d.credentials = true → origins.Selective)
    (hmethods : d.methods = named ++ name :: rest) (hnamed : ∀ other ∈ named, (Method.ofName? other).isSome = true)
    (hname : Method.ofName? name = none) : Flawed d origins (.invalidMethod name)

theorem credentialFault?_eq_none_iff : credentialFault? origins = none ↔ origins.Selective := by
  unfold credentialFault? Origins.Selective
  split <;> simp_all [Origins.isAny]

theorem credentialFault?_eq_some_iff : credentialFault? origins = some fault ↔
    origins = .any ∧ fault = .wildcardWithCredentials ∨ origins = .exact [] ∧ fault = .noOriginsWithCredentials := by
  unfold credentialFault?
  split <;> simp_all [eq_comm]

theorem mapM_readMethod_eq_error_iff {names : List String} : names.mapM readMethod = .error fault ↔
    ∃ named name rest, names = named ++ name :: rest ∧ (∀ other ∈ named, (Method.ofName? other).isSome = true) ∧
      Method.ofName? name = none ∧ fault = .invalidMethod name := by
  induction names with
  | nil => simp [pure, Except.pure]
  | cons head names ih =>
    cases hname : Method.ofName? head with
    | none =>
      have hhead : readMethod head = .error (.invalidMethod head) := by simp [readMethod, hname]
      rw [List.mapM_cons, hhead]
      constructor
      · rintro ⟨⟩
        exact ⟨[], head, names, rfl, by simp, hname, rfl⟩
      · rintro ⟨named, name, rest, hnames, hnamed, -, rfl⟩
        cases named with
        | nil =>
          cases hnames
          rfl
        | cons other named =>
          cases hnames
          simpa [hname] using hnamed head List.mem_cons_self
    | some m =>
      have hhead : readMethod head = .ok m := by simp [readMethod, hname]
      rw [List.mapM_cons, hhead]
      have hrest : ((Except.ok m : Except SetupError Method) >>= fun m => do
          return m :: (← names.mapM readMethod)) = .error fault ↔ names.mapM readMethod = .error fault := by
        cases names.mapM readMethod <;> simp [bind, Except.bind, pure, Except.pure]
      rw [hrest, ih]
      constructor
      · rintro ⟨named, name, rest, rfl, hnamed, hname', rfl⟩
        refine ⟨head :: named, name, rest, rfl, ?_, hname', rfl⟩
        rw [List.forall_mem_cons]
        exact ⟨Option.isSome_of_eq_some hname, hnamed⟩
      · rintro ⟨named, name, rest, hnames, hnamed, hname', rfl⟩
        cases named with
        | nil =>
          cases hnames
          simp [hname] at hname'
        | cons other named =>
          cases hnames
          rw [List.forall_mem_cons] at hnamed
          exact ⟨named, name, rest, rfl, hnamed.2, hname', rfl⟩

/-- A policy is not built in three cases only. -/
theorem buildFor_eq_error_iff : d.buildFor origins = .error fault ↔ d.Flawed origins fault := by
  constructor
  · intro h
    rw [buildFor] at h
    split at h
    case h_1 found hfault =>
      cases h
      have hcredentials : d.credentials = true ∧ credentialFault? origins = some fault := by simpa using hfault
      rcases credentialFault?_eq_some_iff.1 hcredentials.2 with ⟨horigins, rfl⟩ | ⟨horigins, rfl⟩
      · exact .everybody hcredentials.1 horigins
      · exact .nobody hcredentials.1 horigins
    case h_2 hfault =>
      have hmethods : d.methods.mapM readMethod = .error fault := by
        cases hread : d.methods.mapM readMethod with
        | error found =>
          rw [hread] at h
          cases h
          rfl
        | ok methods =>
          rw [hread] at h
          cases h
      obtain ⟨named, name, rest, hnames, hnamed, hname, rfl⟩ := mapM_readMethod_eq_error_iff.1 hmethods
      refine .method (fun hcredentials => ?_) hnames hnamed hname
      rw [if_pos hcredentials] at hfault
      exact credentialFault?_eq_none_iff.1 hfault
  · intro h
    cases h with
    | everybody hcredentials horigins => simp [buildFor, hcredentials, horigins, credentialFault?]
    | nobody hcredentials horigins => simp [buildFor, hcredentials, horigins, credentialFault?]
    | method hcredentials hnames hnamed hname =>
      have hfault : (if d.credentials then credentialFault? origins else none) = none := by
        split
        case isTrue h => exact credentialFault?_eq_none_iff.2 (hcredentials h)
        case isFalse => rfl
      rw [buildFor, hfault, mapM_readMethod_eq_error_iff.2 ⟨_, _, _, hnames, hnamed, hname, rfl⟩]
      rfl

end Draft

theorem Policy.Built.selective {policy : Policy} (h : policy.Built) (hcredentials : policy.credentials = true) :
    policy.origins.Selective := by
  cases h with
  | defaults => cases hcredentials
  | drafted h =>
    obtain ⟨rfl, hsame, hfault⟩ := Draft.eq_of_buildFor h
    exact Draft.credentialFault?_eq_none_iff.1 (hfault (hsame ▸ hcredentials))

/-! ## Histories -/

/-- The route is for such requests: it serves the method, and its pattern covers the path. -/
structure Route.Takes (r : Route) (m : Method) (path : String) : Prop where
  serves : r.serves m = true
  covers : r.pattern.covers path = true

instance (r : Route) (m : Method) (path : String) : Decidable (r.Takes m path) :=
  decidable_of_iff (r.serves m = true ∧ r.pattern.covers path = true) ⟨fun ⟨h, h'⟩ => ⟨h, h'⟩, fun ⟨h, h'⟩ => ⟨h, h'⟩⟩

namespace RouteTable

open PathPattern (parse Chosen)

/-- A call: the text of a pattern, the methods that the route serves, and what it says about its policy. -/
structure Call where
  text : String
  methods : List Method
  said : RoutePolicy

/-- The table after a call. One that fails leaves it as it is. -/
def take (t : RouteTable) (call : Call) : RouteTable :=
  match t.register call.text call.methods call.said with
  | .ok t' => t'
  | .error _ => t

/-- A new table with a policy for all routes, after some calls. -/
def after (shared : Policy) (calls : List Call) : RouteTable :=
  calls.foldl take { shared }

/-- The policy that a route has by what it says. -/
inductive Says (shared : Policy) : RoutePolicy → Option Policy → Prop
  | inherit : Says shared .inherit (some shared)
  | disabled : Says shared .disabled none
  | own {draft : Draft} {policy : Policy} (h : draft.buildFor shared.origins = .ok policy) :
    Says shared (.own draft) (some policy)

/-- The call registers this route. -/
structure Call.Gives (shared : Policy) (call : Call) (r : Route) : Prop where
  pattern : parse call.text = .ok r.pattern
  methods : r.methods = call.methods
  policy : Says shared call.said r.policy

/-- The call fails, and why it does: the pattern is looked at first. -/
inductive Call.Fails (shared : Policy) (call : Call) : SetupError → Prop
  | pattern {fault : PathPattern.Fault} (hpattern : parse call.text = .error fault) :
    Fails shared call (.invalidPathPattern call.text fault)
  | policy {p : PathPattern} {draft : Draft} {fault : SetupError} (hpattern : parse call.text = .ok p)
    (hsaid : call.said = .own draft) (hflawed : draft.Flawed shared.origins fault) : Fails shared call fault

/-- These routes have been registered by the calls, in this order. -/
inductive Registered (shared : Policy) : List Call → List Route → Prop
  | start : Registered shared [] []
  | given {calls : List Call} {routes : List Route} {call : Call} {r : Route} (h : Registered shared calls routes)
    (hcall : call.Gives shared r) : Registered shared (calls ++ [call]) (routes ++ [r])
  | failed {calls : List Call} {routes : List Route} {call : Call} {fault : SetupError}
    (h : Registered shared calls routes) (hcall : call.Fails shared fault) : Registered shared (calls ++ [call]) routes

variable {t : RouteTable} {shared policy : Policy} {calls : List Call} {call : Call} {r : Route} {fault : SetupError}
  {m : Method} {path : String}

theorem Says.origins {said : RoutePolicy} (h : Says shared said (some policy)) : policy.origins = shared.origins := by
  cases h with
  | inherit => rfl
  | own h => exact (Draft.eq_of_buildFor h).1

theorem policyOf_of_says {said : RoutePolicy} {found : Option Policy} (h : Says t.shared said found) :
    t.policyOf said = .ok found := by
  cases h with
  | inherit => rfl
  | disabled => rfl
  | own h => rw [policyOf, h]; rfl

theorem register_of_gives (h : call.Gives t.shared r) :
    t.register call.text call.methods call.said = .ok { t with routes := t.routes ++ [r] } := by
  obtain ⟨pattern, methods, found⟩ := r
  obtain ⟨hpattern, rfl, hsays⟩ := h
  rw [register, PathPattern.ofSetting, hpattern, policyOf_of_says hsays]
  rfl

theorem register_of_fails (h : call.Fails t.shared fault) :
    t.register call.text call.methods call.said = .error fault := by
  cases h with
  | pattern hpattern =>
    rw [register, PathPattern.ofSetting, hpattern]
    rfl
  | policy hpattern hsaid hflawed =>
    rw [register, PathPattern.ofSetting, hpattern, hsaid, policyOf, Draft.buildFor_eq_error_iff.2 hflawed]
    rfl

/-- There is no third outcome. -/
theorem gives_or_fails (shared : Policy) (call : Call) :
    (∃ r, call.Gives shared r) ∨ ∃ fault, call.Fails shared fault := by
  obtain ⟨text, methods, said⟩ := call
  cases hpattern : parse text with
  | error fault => exact .inr ⟨_, .pattern hpattern⟩
  | ok p =>
    cases said with
    | inherit => exact .inl ⟨⟨p, methods, some shared⟩, hpattern, rfl, .inherit⟩
    | disabled => exact .inl ⟨⟨p, methods, none⟩, hpattern, rfl, .disabled⟩
    | own draft =>
      cases hbuilt : draft.buildFor shared.origins with
      | error fault => exact .inr ⟨fault, .policy hpattern rfl (Draft.buildFor_eq_error_iff.1 hbuilt)⟩
      | ok policy => exact .inl ⟨⟨p, methods, some policy⟩, hpattern, rfl, .own hbuilt⟩

theorem take_of_gives (h : call.Gives t.shared r) : t.take call = { t with routes := t.routes ++ [r] } := by
  rw [take, register_of_gives h]

theorem take_of_fails (h : call.Fails t.shared fault) : t.take call = t := by
  rw [take, register_of_fails h]

theorem after_concat (shared : Policy) (calls : List Call) (call : Call) :
    after shared (calls ++ [call]) = (after shared calls).take call := by
  rw [after, List.foldl_append]
  rfl

theorem shared_take (t : RouteTable) (call : Call) : (t.take call).shared = t.shared := by
  rcases gives_or_fails t.shared call with ⟨r, hcall⟩ | ⟨fault, hcall⟩
  · rw [take_of_gives hcall]
  · rw [take_of_fails hcall]

theorem shared_after (shared : Policy) (calls : List Call) : (after shared calls).shared = shared := by
  induction calls using List.reverseRecOn with
  | nil => rfl
  | append_singleton calls call ih => rw [after_concat, shared_take, ih]

/-- The table has the routes of the calls that have not failed. -/
theorem registered_after (shared : Policy) (calls : List Call) :
    Registered shared calls (after shared calls).routes := by
  induction calls using List.reverseRecOn with
  | nil => exact .start
  | append_singleton calls call ih =>
    have hshared := shared_after shared calls
    rw [after_concat]
    rcases gives_or_fails shared call with ⟨r, hcall⟩ | ⟨fault, hcall⟩
    · rw [take_of_gives (hshared ▸ hcall)]
      exact ih.given hcall
    · rw [take_of_fails (hshared ▸ hcall)]
      exact ih.failed hcall

theorem built_after (hshared : shared.Built) (calls : List Call) : (after shared calls).Built := by
  induction calls using List.reverseRecOn with
  | nil => exact .start hshared
  | append_singleton calls call ih =>
    rw [after_concat, take]
    split
    case h_1 hregister => exact .register ih hregister
    case h_2 => exact ih

/-- Every route that has a policy has it for the origins of all routes. -/
theorem Registered.origins {routes : List Route} (h : Registered shared calls routes) :
    ∀ r ∈ routes, ∀ policy, r.policy = some policy → policy.origins = shared.origins := by
  induction h with
  | start => exact fun r hr => by cases hr
  | given _ hcall ih =>
    rw [List.forall_mem_append, List.forall_mem_singleton]
    refine ⟨ih, fun policy hpolicy => ?_⟩
    have hsays := hcall.policy
    rw [hpolicy] at hsays
    exact hsays.origins
  | failed _ _ ih => exact ih

/-! ## Answers -/

/-- Of the routes that take a request, none before this one says as much about the path, and none after it says more. -/
structure Foremost (m : Method) (path : String) (earlier : List Route) (r : Route) (later : List Route) : Prop where
  takes : r.Takes m path
  before : ∀ q ∈ earlier, q.Takes m path → q.pattern.specificity.atLeast r.pattern.specificity = false
  after : ∀ q ∈ later, q.Takes m path → r.pattern.specificity.atLeast q.pattern.specificity = true

instance (m : Method) (path : String) (earlier : List Route) (r : Route) (later : List Route) :
    Decidable (Foremost m path earlier r later) :=
  decidable_of_iff (r.Takes m path ∧
      (∀ q ∈ earlier, q.Takes m path → q.pattern.specificity.atLeast r.pattern.specificity = false) ∧
      ∀ q ∈ later, q.Takes m path → r.pattern.specificity.atLeast q.pattern.specificity = true)
    ⟨fun ⟨h, h', h''⟩ => ⟨h, h', h''⟩, fun ⟨h, h', h''⟩ => ⟨h, h', h''⟩⟩

/-- What is found among the routes: what the foremost one has of those that take the request, or nothing where none
does. -/
inductive Found (m : Method) (path : String) (routes : List Route) : Option Policy → Prop
  | unmatched (h : ∀ r ∈ routes, ¬r.Takes m path) : Found m path routes none
  | foremost {earlier later : List Route} {r : Route} (hroutes : routes = earlier ++ r :: later)
    (h : Foremost m path earlier r later) : Found m path routes r.policy

/-- The patterns of the routes that serve a method, with their policies. -/
def offers (m : Method) (routes : List Route) : List (PathPattern × Option Policy) :=
  (routes.filter (·.serves m)).map fun r => (r.pattern, r.policy)

variable {routes earlier later : List Route}

theorem find?_eq (t : RouteTable) (m : Method) (path : String) :
    t.find? m path = (PathPattern.mostSpecific (offers m t.routes) path).bind (·.2) := rfl

theorem forall_mem_offers {P : PathPattern → Prop} :
    (∀ p ∈ (offers m routes).map (·.1), P p) ↔ ∀ r ∈ routes, r.serves m = true → P r.pattern := by
  simp only [offers, List.forall_mem_map, List.mem_filter, and_imp]

theorem offers_append_cons (hserves : r.serves m = true) :
    offers m (earlier ++ r :: later) = offers m earlier ++ (r.pattern, r.policy) :: offers m later := by
  simp [offers, hserves]

/-- What is offered in a place, is offered by a route in a place. -/
theorem exists_of_offers_eq {before behind : List (PathPattern × Option Policy)}
    {offer : PathPattern × Option Policy} (h : offers m routes = before ++ offer :: behind) :
    ∃ earlier r later, routes = earlier ++ r :: later ∧ r.serves m = true ∧ offer = (r.pattern, r.policy) ∧
      offers m earlier = before ∧ offers m later = behind := by
  obtain ⟨first, rest, hfilter, rfl, hrest⟩ := List.map_eq_append_iff.1 h
  obtain ⟨r, last, rfl, rfl, rfl⟩ := List.map_eq_cons_iff.1 hrest
  obtain ⟨earlier, others, rfl, rfl, hothers⟩ := List.filter_eq_append_iff.1 hfilter
  obtain ⟨passed, later, rfl, hpassed, hserves, rfl⟩ := List.filter_eq_cons_iff.1 hothers
  refine ⟨earlier ++ passed, r, later, by simp, hserves, rfl, ?_, rfl⟩
  have hnone : passed.filter (·.serves m) = [] := List.filter_eq_nil_iff.2 hpassed
  rw [offers, List.filter_append, hnone, List.append_nil]

/-- The foremost of all routes is the one that is chosen among those that serve the method. -/
theorem foremost_iff : Foremost m path earlier r later ↔ r.serves m = true ∧
    Chosen path ((offers m earlier).map (·.1)) r.pattern ((offers m later).map (·.1)) := by
  constructor
  · rintro ⟨⟨hserves, hcovers⟩, hbefore, hafter⟩
    refine ⟨hserves, hcovers, ?_, ?_⟩
    · rw [forall_mem_offers]
      intro q hq hserves' hcovers'
      exact hbefore q hq ⟨hserves', hcovers'⟩
    · rw [forall_mem_offers]
      intro q hq hserves' hcovers'
      exact hafter q hq ⟨hserves', hcovers'⟩
  · rintro ⟨hserves, hcovers, hbefore, hafter⟩
    rw [forall_mem_offers] at hbefore hafter
    refine ⟨⟨hserves, hcovers⟩, ?_, ?_⟩
    · intro q hq htakes
      exact hbefore q hq htakes.serves htakes.covers
    · intro q hq htakes
      exact hafter q hq htakes.serves htakes.covers

/-- A table answers with what is found among its routes, and with nothing else. -/
theorem find?_eq_iff {answer : Option Policy} : t.find? m path = answer ↔ Found m path t.routes answer := by
  rw [find?_eq]
  constructor
  · rintro rfl
    cases hpick : PathPattern.mostSpecific (offers m t.routes) path with
    | none =>
      have hnone : ∀ p ∈ (offers m t.routes).map (·.1), p.covers path = false :=
        List.forall_mem_map.2 (PathPattern.mostSpecific_eq_none_iff.1 hpick)
      rw [forall_mem_offers] at hnone
      refine .unmatched fun r hr htakes => ?_
      have hcovers := htakes.covers
      rw [hnone r hr htakes.serves] at hcovers
      cases hcovers
    | some offer =>
      obtain ⟨before, behind, hoffers, hchosen⟩ := PathPattern.mostSpecific_eq_some_iff.1 hpick
      obtain ⟨earlier, r, later, hroutes, hserves, rfl, rfl, rfl⟩ := exists_of_offers_eq hoffers
      exact .foremost hroutes (foremost_iff.2 ⟨hserves, hchosen⟩)
  · intro h
    cases h with
    | unmatched h =>
      have hnone : ∀ p ∈ (offers m t.routes).map (·.1), p.covers path = false := by
        rw [forall_mem_offers]
        intro r hr hserves
        exact Bool.eq_false_iff.2 fun hcovers => h r hr ⟨hserves, hcovers⟩
      rw [PathPattern.mostSpecific_eq_none_iff.2 (List.forall_mem_map.1 hnone)]
      rfl
    | foremost hroutes h =>
      obtain ⟨hserves, hchosen⟩ := foremost_iff.1 h
      rw [hroutes, offers_append_cons hserves, PathPattern.mostSpecific_eq_some_iff.2 ⟨_, _, rfl, hchosen⟩]
      rfl

/-- The foremost route says at least as much as every other one that takes the request. -/
theorem Foremost.atLeast (h : Foremost m path earlier r later) {q : Route} (hq : q ∈ earlier ++ r :: later)
    (htakes : q.Takes m path) : r.pattern.specificity.atLeast q.pattern.specificity = true := by
  rcases List.mem_append.1 hq with hq | hq
  · exact PathPattern.Specificity.atLeast_of_not (h.before q hq htakes)
  · rcases List.mem_cons.1 hq with rfl | hq
    · exact PathPattern.Specificity.atLeast_refl _
    · exact h.after q hq htakes

/-- A policy that is found is that of a route. -/
theorem Found.exists_route (h : Found m path routes (some policy)) : ∃ r ∈ routes, r.policy = some policy := by
  generalize hanswer : some policy = answer at h
  cases h with
  | unmatched => cases hanswer
  | @foremost earlier later r hroutes h => exact ⟨r, by simp [hroutes], hanswer ▸ rfl⟩

/-- Nothing is found where every route with a policy says less than some other one. -/
theorem find?_of_disabled (hr : r ∈ t.routes) (htakes : r.Takes m path)
    (hless : ∀ q ∈ t.routes, q.Takes m path → q.policy.isSome = true →
      q.pattern.specificity.atLeast r.pattern.specificity = false) : t.find? m path = none := by
  have hfound : Found m path t.routes (t.find? m path) := find?_eq_iff.1 rfl
  generalize hanswer : t.find? m path = answer at hfound
  cases hfound with
  | unmatched => rfl
  | @foremost earlier later q hroutes h =>
    rw [hroutes] at hr hless
    have hmost := h.atLeast hr htakes
    rw [← Option.not_isSome_iff_eq_none]
    intro hsome
    rw [hless q (by simp) h.takes hsome] at hmost
    cases hmost

/-- Whatever calls were made, a further one adds a route at the end of the table, or it fails and changes nothing. For a
method and a path the table answers with the policy of the foremost of its routes that take such a request; so a route
without a policy hides the less specific ones, and where no route takes the request there is no policy. A policy that
the table hands out is for the origins of all routes, and gives credentials neither to everybody nor to nobody. -/
theorem routed_by_history (hshared : shared.Built) (calls : List Call) :
    Registered shared calls (after shared calls).routes ∧
    (∀ call,
      (∃ r, call.Gives shared r ∧
        (after shared calls).register call.text call.methods call.said = .ok (after shared (calls ++ [call])) ∧
        (after shared (calls ++ [call])).routes = (after shared calls).routes ++ [r]) ∨
      ∃ fault, call.Fails shared fault ∧
        (after shared calls).register call.text call.methods call.said = .error fault ∧
        after shared (calls ++ [call]) = after shared calls) ∧
    ∀ m path,
      (∀ answer, (after shared calls).find? m path = answer ↔ Found m path (after shared calls).routes answer) ∧
      (∀ r ∈ (after shared calls).routes, r.Takes m path → r.policy = none →
        (∀ q ∈ (after shared calls).routes, q.Takes m path → q.policy.isSome = true →
          q.pattern.specificity.atLeast r.pattern.specificity = false) → (after shared calls).find? m path = none) ∧
      ∀ policy, (after shared calls).find? m path = some policy →
        policy.origins = shared.origins ∧ (policy.credentials = true → policy.origins.Selective) := by
  refine ⟨registered_after shared calls, fun call => ?_, fun m path => ⟨fun answer => find?_eq_iff, ?_, ?_⟩⟩
  · have hshared := shared_after shared calls
    rw [after_concat]
    rcases gives_or_fails shared call with ⟨r, hcall⟩ | ⟨fault, hcall⟩
    · refine .inl ⟨r, hcall, ?_⟩
      rw [take_of_gives (hshared ▸ hcall), register_of_gives (hshared ▸ hcall)]
      exact ⟨rfl, rfl⟩
    · refine .inr ⟨fault, hcall, ?_⟩
      rw [take_of_fails (hshared ▸ hcall), register_of_fails (hshared ▸ hcall)]
      exact ⟨rfl, rfl⟩
  · intro r hr htakes _ hless
    exact find?_of_disabled hr htakes hless
  · intro policy hfind
    obtain ⟨r, hr, hpolicy⟩ := (find?_eq_iff.1 hfind).exists_route
    have hbuilt := (Built.policies (built_after hshared calls)).2 r hr policy hpolicy
    exact ⟨(registered_after shared calls).origins r hr policy hpolicy, hbuilt.selective⟩

/-! ## A dispatcher -/

/-- What all routes have in common: pages of one domain may read and post. -/
def commonDraft : Draft where
  origins := ["https://*.example.com"]
  methods := ["GET", "post"]

/-- The policy for all routes. -/
def commonPolicy : Policy where
  origins := .patterns [⟨"https://*.example.com"⟩]
  methods := [.get, .post]
  headers := ["Content-Type", "Authorization"]
  exposed := []
  credentials := false
  maxAge := none

/-- Uploads are made with credentials; the origins are named in vain. -/
def uploadDraft : Draft :=
  { commonDraft with origins := ["*"], methods := ["POST"], credentials := true, maxAge := some 60 }

/-- The policy for uploads. -/
def uploadPolicy : Policy :=
  { commonPolicy with methods := [.post], credentials := true, maxAge := some 60 }

/-- The calls of a dispatcher. The second and the fifth one fail, and the last one comes too late. -/
def dispatcher : List Call :=
  [⟨"/api/**", [], .inherit⟩, ⟨"api", [], .inherit⟩, ⟨"/api/logs/**", [], .disabled⟩,
    ⟨"/api/file", [.post], .own uploadDraft⟩, ⟨"/api/file", [], .own { uploadDraft with methods := ["PO ST"] }⟩,
    ⟨"/api/**", [], .disabled⟩]

/-- Everything below `api`. -/
def apiRoute (policy : Option Policy) : Route where
  pattern := ⟨"/api/**", [.single ("api".toList.map .exactly), .anyDepth]⟩
  methods := []
  policy := policy

/-- The logs are for nobody else. -/
def logsRoute : Route where
  pattern := ⟨"/api/logs/**", [.single ("api".toList.map .exactly), .single ("logs".toList.map .exactly), .anyDepth]⟩
  methods := []
  policy := none

/-- Where uploads go. -/
def fileRoute : Route where
  pattern := ⟨"/api/file", [.single ("api".toList.map .exactly), .single ("file".toList.map .exactly)]⟩
  methods := [.post]
  policy := some uploadPolicy

theorem build_commonDraft : commonDraft.build = .ok commonPolicy := by
  have horigins : Origins.ofList ["https://*.example.com"] = .ok (.patterns [⟨"https://*.example.com"⟩]) := by
    rw [Origins.ofList, if_neg (by decide), if_pos (by decide)]
    rfl
  have hmethods : ["GET", "post"].mapM readMethod = .ok [.get, .post] := by decide +kernel
  simp [Draft.build, Draft.readOrigins, commonDraft, horigins, Draft.buildFor, hmethods, bind, Except.bind, pure,
    Except.pure, commonPolicy]

theorem buildFor_uploadDraft : uploadDraft.buildFor commonPolicy.origins = .ok uploadPolicy := by
  have hmethods : ["POST"].mapM readMethod = .ok [.post] := by decide +kernel
  simp [Draft.buildFor, uploadDraft, commonDraft, commonPolicy, Draft.credentialFault?, hmethods, bind, Except.bind,
    pure, Except.pure, uploadPolicy]

theorem routes_dispatcher : (after commonPolicy dispatcher).routes =
    [apiRoute (some commonPolicy), logsRoute, fileRoute, apiRoute none] := by
  have hapi : parse "/api/**" = .ok (apiRoute none).pattern := by decide
  have hselective : commonPolicy.origins.Selective := ⟨rfl, nofun⟩
  have hinherit : Call.Gives commonPolicy ⟨"/api/**", [], .inherit⟩ (apiRoute (some commonPolicy)) :=
    ⟨hapi, rfl, .inherit⟩
  have hbare : Call.Fails commonPolicy ⟨"api", [], .inherit⟩ (.invalidPathPattern "api" .notAbsolute) :=
    .pattern (by decide)
  have hlogs : Call.Gives commonPolicy ⟨"/api/logs/**", [], .disabled⟩ logsRoute :=
    ⟨by decide, rfl, .disabled⟩
  have hfile : Call.Gives commonPolicy ⟨"/api/file", [.post], .own uploadDraft⟩ fileRoute :=
    ⟨by decide, rfl, .own buildFor_uploadDraft⟩
  have hbad : Call.Fails commonPolicy ⟨"/api/file", [], .own { uploadDraft with methods := ["PO ST"] }⟩
      (.invalidMethod "PO ST") :=
    .policy hfile.pattern rfl (@Draft.Flawed.method _ _ [] [] _ (fun _ => hselective) rfl (by simp) (by decide +kernel))
  have hlate : Call.Gives commonPolicy ⟨"/api/**", [], .disabled⟩ (apiRoute none) := ⟨hapi, rfl, .disabled⟩
  simp only [after, dispatcher, List.foldl_cons, List.foldl_nil]
  rw [take_of_gives (t := ⟨commonPolicy, []⟩) hinherit, take_of_fails (t := ⟨commonPolicy, _⟩) hbare,
    take_of_gives (t := ⟨commonPolicy, _⟩) hlogs, take_of_gives (t := ⟨commonPolicy, _⟩) hfile,
    take_of_fails (t := ⟨commonPolicy, _⟩) hbad, take_of_gives (t := ⟨commonPolicy, _⟩) hlate]
  rfl

/-- Uploads have the policy of their own route and other requests for files the one for all; what is disabled hides the
more general route before it, and what no route takes has no policy. -/
theorem dispatcher_routed_by_history : commonPolicy.Built ∧
    (after commonPolicy dispatcher).find? .post "/api/file" = some uploadPolicy ∧
    (after commonPolicy dispatcher).find? .get "/api/file" = some commonPolicy ∧
    (after commonPolicy dispatcher).find? .get "/api/logs/1" = none ∧
    (after commonPolicy dispatcher).find? .get "/docs" = none ∧
    uploadPolicy.credentials = true ∧ uploadPolicy.origins = commonPolicy.origins ∧ uploadPolicy.origins.Selective := by
  have hbuilt : commonPolicy.Built := .of_build build_commonDraft
  obtain ⟨-, -, hfind⟩ := routed_by_history hbuilt dispatcher
  simp only [routes_dispatcher] at hfind
  have hpost : (after commonPolicy dispatcher).find? .post "/api/file" = some uploadPolicy := by
    have hforemost : Foremost .post "/api/file" [apiRoute (some commonPolicy), logsRoute] fileRoute
        [apiRoute none] := by decide +kernel
    exact ((hfind .post "/api/file").1 _).2 (.foremost rfl hforemost)
  refine ⟨hbuilt, hpost, ?_, ?_, ?_, rfl, (hfind .post "/api/file").2.2 _ hpost |>.imp_right fun h => h rfl⟩
  · have hforemost : Foremost .get "/api/file" [] (apiRoute (some commonPolicy))
        [logsRoute, fileRoute, apiRoute none] := by decide +kernel
    exact ((hfind .get "/api/file").1 _).2 (.foremost rfl hforemost)
  · exact (hfind .get "/api/logs/1").2.1 logsRoute (by simp) (by decide +kernel) rfl (by decide +kernel)
  · have hunmatched : ∀ r ∈ [apiRoute (some commonPolicy), logsRoute, fileRoute, apiRoute none],
        ¬r.Takes .get "/docs" := by
      decide +kernel
    exact ((hfind .get "/docs").1 none).2 (.unmatched hunmatched)

end RouteTable

end Portcullis.Cors
