import Portcullis.Proofs.Guard.Hosting
import Portcullis.Proofs.Pipeline.Licensed

/-!
# Hosts within a licence

The stages of a chain keep within a licence if what the host has asked for does: the repository, the stages that it adds
and the wrappers. A request is then served by steps that the licence allows (`Guard.exists_trace`).

* `Blueprint.Within`, `Guard.Within`, `Guard.Event.Within`: a host, its guard and what happens to that.
* `Guard.Within.stagesFor`: the stages that a request goes through.
-/

namespace Portcullis

variable {σ : Type}

/-- What the host has asked for keeps within the licence. -/
structure Blueprint.Within (b : Blueprint σ) (shared : Shared σ) (l : Licence σ) : Prop where
  repository : l.repositories (b.context.repository.getD (defaultRepository b.session.policy shared.store))
  saves : b.context.explicitSave = true ∨ l.sessions
  added : ∀ entry ∈ b.added, entry.2.Within l
  wrappers : ∀ wrapper ∈ b.wrappers, ∀ stage : Stage σ, stage.Within l → (wrapper stage).Within l

namespace Blueprint

variable {b : Blueprint σ} {shared : Shared σ} {l : Licence σ}

/-- Where nothing of the host's own stands in the chain, there is the repository to look at only. -/
theorem Plain.within (h : b.Plain)
    (hr : l.repositories (b.context.repository.getD (defaultRepository b.session.policy shared.store)))
    (hs : b.context.explicitSave = true ∨ l.sessions) : b.Within shared l where
  repository := hr
  saves := hs
  added := by simp [h.added]
  wrappers := by simp [h.wrappers]

theorem plan_within (hb : b.Within shared l) (plan : Plan σ) (h : b.Found shared plan) :
    ∀ stage ∈ plan.stages, stage.Within l := by
  intro stage hstage
  rcases Plan.mem_stages.1 hstage with ⟨-, rfl⟩ | ⟨-, rfl⟩ | ⟨c, -, rfl⟩ | ⟨c, hc, rfl⟩ | ⟨f, -, rfl⟩ |
    ⟨basic, -, rfl⟩ | ⟨-, rfl⟩ | ⟨a, -, rfl⟩
  · exact .tracing
  · exact .metrics
  · exact .cors ..
  · rw [h.context] at hc
    split at hc
    · cases hc
    · cases hc
      cases hsave : b.context.explicitSave with
      | true => exact .explicitSave hb.repository
      | false => exact .autoSave hb.repository (hb.saves.resolve_left (by simp [hsave]))
  · exact .formLogin ..
  · exact .httpBasic ..
  · exact .anonymous
  · exact .authorization ..

/-- The stages of a chain that such a blueprint is built into. -/
theorem stages_within (hb : b.Within shared l) {c : Chain σ} (h : b.build shared = .ok c) :
    ∀ stage ∈ c.stages, stage.Within l :=
  forall_mem_stages hb.wrappers hb.added (plan_within hb) h

end Blueprint

namespace Guard

variable {g : Guard σ} {l : Licence σ}

/-- The stages that a request goes through, where its chain has been built for a host that keeps within the licence. -/
theorem stagesFor_within {b : Blueprint σ} {shared : Shared σ} (hb : b.Within shared l) {c : Chain σ}
    (hbuild : b.build shared = .ok c) {r : Request} (hchain : g.chainFor? r.path = some c) :
    ∀ stage ∈ g.stagesFor r.path, stage.Within l := by
  rw [stagesFor_eq hchain]
  exact Blueprint.stages_within hb hbuild

/-- The chains have been built, over the store that they share, for hosts that keep within the licence. -/
def Within (g : Guard σ) (shared : Shared σ) (l : Licence σ) : Prop :=
  ∀ c ∈ g.chains, ∃ b : Blueprint σ, b.build shared = .ok c ∧ b.Within shared l

/-- Wherever a request goes, the stages keep within the licence. -/
theorem Within.stagesFor {shared : Shared σ} (hg : g.Within shared l) (path : String) :
    ∀ stage ∈ g.stagesFor path, stage.Within l := by
  intro stage hstage
  obtain ⟨c, hchain, hmem⟩ := mem_stagesFor.1 hstage
  obtain ⟨b, hbuild, hb⟩ := hg c (List.mem_of_find?_eq_some hchain)
  exact Blueprint.stages_within hb hbuild stage hmem

/-- A request is served with a handler that keeps within the licence, or the host does something that it may do. -/
inductive Event.Within (l : Licence σ) : Event σ → Prop
  | request (r : Request) {code : Program σ} (h : code.Within l) : Within l (.request r code.handle)
  | meanwhile {f : σ → σ} (h : l.behind f) : Within l (.meanwhile f)

theorem held_enter (g : Guard σ) (l : Licence σ) (r : Request) (d : Desk σ) : (g.enter r d).Held l r :=
  Passage.held_new l r _ _ _

variable [Clocked σ]

/-- The steps by which a request is served, and what it comes to. -/
theorem exists_trace {r : Request} (d : Desk σ) (hstages : ∀ stage ∈ g.stagesFor r.path, stage.Within l)
    (hlogin : l.sessions ∨ ∀ stage ∈ g.stagesFor r.path, stage.admits r = false) {code : Program σ}
    (hcode : code.Within l) :
    ∃ outcome q journal,
      Pipeline.noted code.handleNoted (g.stagesFor r.path) (g.enter r d, []) = (outcome, q, journal) ∧
      g.runRequest code.handle r d = (outcome, q.exchange, ⟨q.metrics, q.backend⟩) ∧
      l.Trace (g.enter r d) journal q ∧ ∀ response, outcome = .ok response → l.Lets response.headers := by
  obtain ⟨outcome, q, journal, hnoted, hrun, htrace, hanswer⟩ :=
    Pipeline.exists_trace hcode hstages (g.held_enter l r d) hlogin
  refine ⟨outcome, q, journal, hnoted, ?_, htrace, hanswer⟩
  rw [runRequest_eq, hrun]

end Guard

end Portcullis
