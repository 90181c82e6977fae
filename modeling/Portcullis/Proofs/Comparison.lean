import Portcullis.Proofs.Steps

/-!
# Two runs of the same steps

Steps are run twice, in states that are alike. They echo if they come to the same result both times, and to states that
are alike again (`Comparison.Echoes`). What the first run uses up is never given back; the runs are compared only where
it has not used up too much in the end. So a first step can be compared with its echo before anything is known of the
steps that follow, since whatever these do, the limit has been kept up to there (`Comparison.Echoes.seq`).
-/

namespace Portcullis

/-- How two runs of the same steps are compared. -/
structure Comparison (S : Type) where
  /-- What is asked of the states that the first run comes through. -/
  fit : S → Prop
  /-- How much the first run has used up. -/
  used : S → Nat
  /-- How much it may use up, if the runs are to be compared. -/
  limit : Nat
  /-- The state of the second run is like that of the first. -/
  alike : S → S → Prop
  fit_of_alike : ∀ {s t}, alike s t → fit s

namespace Comparison

variable {S ε α β : Type} (c : Comparison S)

/-- Nothing that has been used up is given back by the step; and if the proviso holds, then both times the step comes,
within the limit, to the same result, which is as it has to be, and to states that are alike. -/
structure Echoes (proviso : Prop) (step : ExceptT ε (StateM S) α) (post : α → Prop) : Prop where
  keeps : ∀ s, c.fit s → c.fit (step s).2 ∧ c.used s ≤ c.used (step s).2
  echo : proviso → ∀ s t, c.alike s t → c.used (step s).2 ≤ c.limit →
    (step t).1 = (step s).1 ∧ c.alike (step s).2 (step t).2 ∧ ∀ a, (step s).1 = .ok a → post a

variable {c} {proviso : Prop} {post : α → Prop}

theorem echoes_pure {a : α} (h : proviso → post a) : c.Echoes proviso (pure a : ExceptT ε (StateM S) α) post where
  keeps _ hs := ⟨hs, Nat.le_refl _⟩
  echo hp _ _ hst _ := by
    refine ⟨rfl, hst, ?_⟩
    rintro _ ⟨⟩
    exact h hp

theorem echoes_throw (e : ε) : c.Echoes proviso (throw e : ExceptT ε (StateM S) α) post where
  keeps _ hs := ⟨hs, Nat.le_refl _⟩
  echo _ _ _ hst _ := ⟨rfl, hst, nofun⟩

theorem Echoes.mono {step : ExceptT ε (StateM S) α} {proviso' : Prop} {post' : α → Prop}
    (h : c.Echoes proviso step post) (hproviso : proviso' → proviso) (hpost : ∀ a, post a → post' a) :
    c.Echoes proviso' step post' where
  keeps := h.keeps
  echo hp s t hst hlimit := by
    obtain ⟨hresult, halike, ha⟩ := h.echo (hproviso hp) s t hst hlimit
    exact ⟨hresult, halike, fun a hok => hpost a (ha a hok)⟩

/-- One step after the other; the second may rely on the result of the first. -/
theorem Echoes.seq {step : ExceptT ε (StateM S) α} {next : α → ExceptT ε (StateM S) β} {post' : β → Prop}
    (h : c.Echoes proviso step post) (hnext : ∀ a, c.Echoes (proviso ∧ post a) (next a) post') :
    c.Echoes proviso (step >>= next) post' where
  keeps s hs := by
    have hkept := h.keeps s hs
    rw [Steps.bind_apply]
    rcases hstep : step s with ⟨e | a, s'⟩ <;> rw [hstep] at hkept
    · exact hkept
    · obtain ⟨hfit, hused⟩ := (hnext a).keeps s' hkept.1
      exact ⟨hfit, Nat.le_trans hkept.2 hused⟩
  echo hp s t hst hlimit := by
    have hfit := (h.keeps s (c.fit_of_alike hst)).1
    have hecho := h.echo hp s t hst
    rw [Steps.bind_apply] at hlimit
    rw [Steps.bind_apply, Steps.bind_apply]
    rcases hstep : step s with ⟨e | a, s'⟩ <;> rw [hstep] at hfit hecho hlimit
    · obtain ⟨hresult, halike, -⟩ := hecho hlimit
      rcases hstep' : step t with ⟨_ | _, t'⟩ <;> rw [hstep'] at hresult halike <;> cases hresult
      exact ⟨rfl, halike, nofun⟩
    · obtain ⟨hresult, halike, ha⟩ := hecho (Nat.le_trans ((hnext a).keeps s' hfit).2 hlimit)
      rcases hstep' : step t with ⟨_ | _, t'⟩ <;> rw [hstep'] at hresult halike <;> cases hresult
      exact (hnext a).echo ⟨hp, ha a rfl⟩ s' t' halike hlimit

/-- One step after the other, whatever the first one comes to. -/
theorem Echoes.andThen {step : ExceptT ε (StateM S) α} {next : α → ExceptT ε (StateM S) β} {post' : β → Prop}
    (h : c.Echoes proviso step post) (hnext : ∀ a, c.Echoes proviso (next a) post') :
    c.Echoes proviso (step >>= next) post' :=
  h.seq fun a => (hnext a).mono And.left fun _ hb => hb

theorem Echoes.discard {step : ExceptT ε (StateM S) α} (h : c.Echoes proviso step post) :
    c.Echoes proviso (discard step) fun _ => True where
  keeps s hs := by
    rw [Steps.discard_apply]
    exact h.keeps s hs
  echo hp s t hst hlimit := by
    rw [Steps.discard_apply] at hlimit
    obtain ⟨hresult, halike, -⟩ := h.echo hp s t hst hlimit
    rw [Steps.discard_apply, Steps.discard_apply, hresult]
    exact ⟨rfl, halike, fun _ _ => trivial⟩

end Comparison

end Portcullis
