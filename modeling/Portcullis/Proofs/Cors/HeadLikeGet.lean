import Portcullis.Proofs.Cors.Routing

/-!
# HEAD like GET

Whoever may `GET` a path may ask for its `HEAD`. A policy that allows the one method allows the other
(`Policy.allowsMethod_head`), so it remains to see that the same policy decides about both. In a table by paths that is
so anyhow. In a table by routes each method has its own foremost route (`RouteTable.Decides`), and this is the same one
for both if it serves both of them (`RouteTable.Decides.unique`). A route for `HEAD` alone that says more about a path
decides there for itself.

* `head_like_get`: what is allowed to `GET`, is allowed to `HEAD`, with the same headers.
-/

namespace Portcullis.Cors

variable {source : Source} {t : RouteTable} {origin : String} {path : String} {m m' : Method} {policy : Policy}

theorem Policy.allowsMethod_head (h : policy.allowsMethod .get = true) : policy.allowsMethod .head = true := by
  have hne : Method.get ≠ .head := by decide
  simp_all [allowsMethod]

namespace RouteTable

/-- The route decides about a method on a path: it is the foremost one of those that take such a request. -/
def Decides (t : RouteTable) (m : Method) (path : String) (r : Route) : Prop :=
  ∃ earlier later, t.routes = earlier ++ r :: later ∧ Foremost m path earlier r later

variable {r r' : Route} {earlier later earlier' later' : List Route}

/-- Two routes, each the foremost one for a method, are the same if each of them serves the other's method too. -/
theorem Foremost.unique (h : Foremost m path earlier r later) (h' : Foremost m' path earlier' r' later')
    (hserves : r.serves m' = true) (hserves' : r'.serves m = true)
    (heq : earlier ++ r :: later = earlier' ++ r' :: later') : r = r' := by
  have htakes : r.Takes m' path := ⟨hserves, h.takes.covers⟩
  have htakes' : r'.Takes m path := ⟨hserves', h'.takes.covers⟩
  -- In different places, the one behind would have to say more than the one in front, and not more.
  rcases PathPattern.places_cases heq with ⟨-, hsame⟩ | ⟨hr, hr'⟩ | ⟨hr', hr⟩
  · exact hsame
  · have hmore := h'.before r hr htakes
    rw [h.after r' hr' htakes'] at hmore
    cases hmore
  · have hmore := h.before r' hr' htakes'
    rw [h'.after r hr htakes] at hmore
    cases hmore

theorem Decides.unique (h : t.Decides m path r) (h' : t.Decides m' path r') (hserves : r.serves m' = true)
    (hserves' : r'.serves m = true) : r = r' := by
  obtain ⟨earlier, later, heq, hforemost⟩ := h
  obtain ⟨earlier', later', heq', hforemost'⟩ := h'
  exact hforemost.unique hforemost' hserves hserves' (heq.symm.trans heq')

theorem Decides.mem (h : t.Decides m path r) : r ∈ t.routes := by
  obtain ⟨earlier, later, heq, -⟩ := h
  simp [heq]

theorem Decides.takes (h : t.Decides m path r) : r.Takes m path := by
  obtain ⟨earlier, later, -, hforemost⟩ := h
  exact hforemost.takes

theorem Decides.find?_eq (h : t.Decides m path r) : t.find? m path = r.policy := by
  obtain ⟨earlier, later, heq, hforemost⟩ := h
  exact find?_eq_iff.2 (.foremost heq hforemost)

/-- Some route decides, if any takes such a request. -/
theorem exists_decides (hr : r ∈ t.routes) (htakes : r.Takes m path) : ∃ r', t.Decides m path r' := by
  have hfound : Found m path t.routes (t.find? m path) := find?_eq_iff.1 rfl
  generalize t.find? m path = answer at hfound
  cases hfound with
  | unmatched h => exact absurd htakes (h r hr)
  | foremost heq hforemost => exact ⟨_, _, _, heq, hforemost⟩

/-- A policy that is found is that of a route that decides. -/
theorem exists_decides_of_find? (h : t.find? m path = some policy) :
    ∃ r, t.Decides m path r ∧ r.policy = some policy := by
  have hfound := find?_eq_iff.1 h
  generalize hanswer : some policy = answer at hfound
  cases hfound with
  | unmatched => cases hanswer
  | @foremost earlier later r heq hforemost => exact ⟨r, ⟨earlier, later, heq, hforemost⟩, rfl⟩

end RouteTable

namespace Source

/-- The route that decides about `GET`, if it is a route that does, serves `HEAD` too. -/
def GetServesHead : Source → String → Prop
  | .paths _, _ => True
  | .routes t, path => ∀ r, t.Decides .get path r → r.serves .head = true

/-- The route decides about `HEAD`, and it is for `HEAD` without `GET`. -/
def HeadAlone : Source → String → Route → Prop
  | .paths _, _, _ => False
  | .routes t, path, r => t.Decides .head path r ∧ r.serves .get = false

theorem HeadAlone.find?_head {r : Route} (h : source.HeadAlone path r) : source.find? .head path = r.policy := by
  cases source with
  | paths table => exact h.elim
  | routes t => exact h.1.find?_eq

/-- The policy that is found for `GET` is found for `HEAD` too, if no route tells the two methods apart. -/
theorem GetServesHead.find?_head (h : source.GetServesHead path) (halone : ∀ r, ¬source.HeadAlone path r)
    (hfind : source.find? .get path = some policy) : source.find? .head path = some policy := by
  cases source with
  | paths table => exact hfind
  | routes t =>
    obtain ⟨r, hdecides, hpolicy⟩ := RouteTable.exists_decides_of_find? hfind
    have hhead := h r hdecides
    obtain ⟨r', hdecides'⟩ := RouteTable.exists_decides hdecides.mem ⟨hhead, hdecides.takes.covers⟩
    have hget : r'.serves .get = true := by
      by_contra hnot
      exact halone r' ⟨hdecides', by simpa using hnot⟩
    obtain rfl := hdecides.unique hdecides' hhead hget
    rw [Source.find?, hdecides'.find?_eq, hpolicy]

end Source

/-- What is granted for `GET`, is granted for `HEAD`. -/
theorem verdict_head {answer : String} (h : source.GetServesHead path) (halone : ∀ r, ¬source.HeadAlone path r)
    (hgranted : verdict source origin .get path = .granted policy answer) :
    verdict source origin .head path = .granted policy answer := by
  obtain ⟨hfind, hallows, hmethod, hanswer⟩ := verdict_eq_granted_iff.1 hgranted
  exact verdict_eq_granted_iff.2 ⟨h.find?_head halone hfind, hallows, Policy.allowsMethod_head hmethod, hanswer⟩

theorem Verdict.exists_granted_of_allow {v : Verdict} {headers : Headers} {preflight : Bool}
    (requested : Option String)
    (h : v.actual = .allow headers preflight ∨ v.announced requested = .allow headers preflight) :
    ∃ policy answer, v = .granted policy answer := by
  cases v
  case granted policy answer => exact ⟨policy, answer, rfl⟩
  all_goals rcases h with h | h <;> cases h

/-- Let no route that is for `GET` without `HEAD` decide about `GET`; policies by path tell no methods apart anyhow.
Then what is allowed to `GET` is allowed to `HEAD`, with the same headers, and a preflight for `HEAD` is told what one
for `GET` is told where that one is allowed. But if a route for `HEAD` without `GET` decides about `HEAD`, it does so
with its own policy, or with none. -/
theorem head_like_get (h : source.GetServesHead path) :
    ((∀ r, ¬source.HeadAlone path r) →
      (∀ origin headers, decideActual source origin .get path = .allow headers false →
        decideActual source origin .head path = .allow headers false) ∧
      ∀ origin requested headers, decideAnnounced source origin .get path requested = .allow headers true →
        decideAnnounced source origin .head path requested = .allow headers true) ∧
    ∀ r, source.HeadAlone path r → source.find? .head path = r.policy := by
  refine ⟨fun halone => ⟨fun origin headers hget => ?_, fun origin requested headers hget => ?_⟩,
    fun r halone => halone.find?_head⟩
  · cases origin with
    | none => cases hget
    | some origin =>
      rw [decideActual_eq] at hget ⊢
      obtain ⟨policy, answer, hgranted⟩ := Verdict.exists_granted_of_allow none (.inl hget)
      rw [verdict_head h halone hgranted, ← hget, hgranted]
  · rw [decideAnnounced_eq] at hget ⊢
    obtain ⟨policy, answer, hgranted⟩ := Verdict.exists_granted_of_allow requested (.inr hget)
    rw [verdict_head h halone hgranted, ← hget, hgranted]

/-! ## A feed -/

/-- Everything may be read by everybody, but the head of the feed is for nobody else. -/
def feedCalls : List RouteTable.Call :=
  [⟨"/**", [], .inherit⟩, ⟨"/feed", [.head], .disabled⟩]

/-- The table of these calls. -/
def feedTable : RouteTable :=
  .after .permitDefaults feedCalls

/-- The route for everything. -/
def openRoute : Route where
  pattern := ⟨"/**", [.anyDepth]⟩
  methods := []
  policy := some .permitDefaults

/-- The route for the head of the feed. -/
def feedRoute : Route where
  pattern := ⟨"/feed", [.single ("feed".toList.map .exactly)]⟩
  methods := [.head]
  policy := none

theorem routes_feedTable : feedTable.routes = [openRoute, feedRoute] := by
  have hopen : RouteTable.Call.Gives .permitDefaults ⟨"/**", [], .inherit⟩ openRoute :=
    ⟨by decide, rfl, .inherit⟩
  have hfeed : RouteTable.Call.Gives .permitDefaults ⟨"/feed", [.head], .disabled⟩ feedRoute :=
    ⟨by decide, rfl, .disabled⟩
  simp only [feedTable, RouteTable.after, feedCalls, List.foldl_cons, List.foldl_nil]
  rw [RouteTable.take_of_gives (t := ⟨.permitDefaults, []⟩) hopen,
    RouteTable.take_of_gives (t := ⟨.permitDefaults, _⟩) hfeed]
  rfl

theorem decides_feedTable : feedTable.Decides .get "/docs" openRoute ∧ feedTable.Decides .get "/feed" openRoute ∧
    feedTable.Decides .head "/feed" feedRoute :=
  ⟨⟨[], [feedRoute], routes_feedTable, by decide⟩, ⟨[], [feedRoute], routes_feedTable, by decide⟩,
    ⟨[openRoute], [], routes_feedTable, by decide⟩⟩

/-- Who gets the policy for everything is allowed to `GET`. -/
theorem get_of_openRoute (h : t.Decides .get path openRoute) :
    decideActual (.routes t) (some "https://shop.example") .get path =
      .allow [("access-control-allow-origin", "*")] false := by
  have hget : Policy.permitDefaults.allowsMethod .get = true := by decide
  have hgranted : verdict (.routes t) "https://shop.example" .get path = .granted .permitDefaults "*" :=
    verdict_eq_granted_iff.2 ⟨h.find?_eq, rfl, hget, rfl⟩
  rw [decideActual_eq, hgranted]
  rfl

/-- The feed may be read, and its head may not. -/
theorem feed_head_unlike_get :
    decideActual (.routes feedTable) (some "https://shop.example") .get "/feed" =
      .allow [("access-control-allow-origin", "*")] false ∧
    decideActual (.routes feedTable) (some "https://shop.example") .head "/feed" = .noPolicy := by
  obtain ⟨-, hget, hhead⟩ := decides_feedTable
  refine ⟨get_of_openRoute hget, ?_⟩
  have hfind : (Source.routes feedTable).find? .head "/feed" = none := hhead.find?_eq
  rw [decideActual_eq, verdict, hfind]
  rfl

/-- No other path tells the two methods apart. -/
theorem eq_openRoute_of_decides {r : Route} (h : feedTable.Decides m "/docs" r) : r = openRoute := by
  have hmem : r = openRoute ∨ r = feedRoute := by simpa [routes_feedTable] using h.mem
  refine hmem.resolve_right ?_
  rintro rfl
  have hcovers := h.takes.covers
  revert hcovers
  decide

/-- Everything else may be read and may be asked for its head; about the head of the feed the route for it decides. -/
theorem docs_head_like_get : (Source.routes feedTable).GetServesHead "/docs" ∧
    (Source.routes feedTable).GetServesHead "/feed" ∧
    decideActual (.routes feedTable) (some "https://shop.example") .head "/docs" =
      .allow [("access-control-allow-origin", "*")] false ∧
    (Source.routes feedTable).HeadAlone "/feed" feedRoute ∧
    (Source.routes feedTable).find? .head "/feed" = none := by
  obtain ⟨hdocs, hfeed, hhead⟩ := decides_feedTable
  have hserves : (Source.routes feedTable).GetServesHead "/docs" := fun r h => eq_openRoute_of_decides h ▸ rfl
  have halone : ∀ r, ¬(Source.routes feedTable).HeadAlone "/docs" r := by
    rintro r ⟨hdecides, hget⟩
    rw [eq_openRoute_of_decides hdecides] at hget
    cases hget
  have hserves' : (Source.routes feedTable).GetServesHead "/feed" := by
    intro r hdecides
    have hmem : r = openRoute ∨ r = feedRoute := by simpa [routes_feedTable] using hdecides.mem
    rcases hmem with rfl | rfl
    · rfl
    · have hget := hdecides.takes.serves
      revert hget
      decide +kernel
  have hfeedAlone : (Source.routes feedTable).HeadAlone "/feed" feedRoute := ⟨hhead, by decide +kernel⟩
  exact ⟨hserves, hserves', ((head_like_get hserves).1 halone).1 _ _ (get_of_openRoute hdocs), hfeedAlone,
    (head_like_get hserves').2 feedRoute hfeedAlone⟩

end Portcullis.Cors
