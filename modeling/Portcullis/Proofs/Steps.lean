import Portcullis.Session.Store

/-!
# Steps that may fail

How steps over a state that may fail are taken at a given state. Operations of stores and repositories are such steps,
and so are those of stages and handlers.
-/

namespace Portcullis.Steps

variable {ε σ α β : Type}

/-- The second step is taken where the first one answers, in the state that the first one leaves. -/
@[simp] theorem bind_apply (f : ExceptT ε (StateM σ) α) (g : α → ExceptT ε (StateM σ) β) (s : σ) :
    (f >>= g) s = match f s with
      | (.ok a, s') => g a s'
      | (.error e, s') => (.error e, s') := by
  rcases h : f s with ⟨e | a, s'⟩ <;> simp [bind, ExceptT.bind, ExceptT.mk, StateT.bind, ExceptT.bindCont, h]
  rfl

@[simp] theorem pure_apply (a : α) (s : σ) : (pure a : ExceptT ε (StateM σ) α) s = (.ok a, s) := rfl

@[simp] theorem throw_apply (e : ε) (s : σ) : (throw e : ExceptT ε (StateM σ) α) s = (.error e, s) := rfl

@[simp] theorem modifyGet_apply (f : σ → α × σ) (s : σ) :
    (modifyGet f : ExceptT ε (StateM σ) α) s = (.ok (f s).1, (f s).2) := rfl

@[simp] theorem modify_apply (f : σ → σ) (s : σ) : (modify f : ExceptT ε (StateM σ) PUnit) s = (.ok ⟨⟩, f s) := rfl

@[simp] theorem map_apply (f : α → β) (step : ExceptT ε (StateM σ) α) (s : σ) :
    (f <$> step) s = ((step s).1.map f, (step s).2) := by
  rw [map_eq_pure_bind, bind_apply]
  rcases step s with ⟨e | a, s'⟩ <;> rfl

@[simp] theorem discard_apply (step : ExceptT ε (StateM σ) α) (s : σ) :
    (discard step) s = ((step s).1.map fun _ => ⟨⟩, (step s).2) :=
  map_apply _ step s

/-! ## Results -/

theorem bind_eq_ok_iff {x : Except ε α} {f : α → Except ε β} {b : β} :
    (x >>= f) = .ok b ↔ ∃ a, x = .ok a ∧ f a = .ok b := by
  cases x with
  | error e => exact ⟨nofun, nofun⟩
  | ok a =>
    refine ⟨fun h => ⟨a, rfl, h⟩, ?_⟩
    rintro ⟨a', ⟨⟩, h⟩
    exact h

theorem map_eq_ok_iff {x : Except ε α} {f : α → β} {b : β} : f <$> x = .ok b ↔ ∃ a, x = .ok a ∧ f a = b := by
  cases x with
  | error e => exact ⟨nofun, nofun⟩
  | ok a =>
    constructor
    · rintro ⟨⟩
      exact ⟨a, rfl, rfl⟩
    · rintro ⟨a', ⟨⟩, rfl⟩
      rfl

/-- Looking up what may be there: something found stands for something that was there. -/
theorem mapM_eq_some {f : α → Except ε β} {o : Option α} {b : β} (h : o.mapM f = .ok (some b)) :
    ∃ a, o = some a ∧ f a = .ok b := by
  cases o with
  | none => cases h
  | some a =>
    obtain ⟨b', hb', heq⟩ := map_eq_ok_iff.1 (show some <$> f a = .ok (some b) from h)
    cases heq
    exact ⟨a, rfl, hb'⟩

theorem isSome_of_mapM {f : α → Except ε β} {o : Option α} {found : Option β} (h : o.mapM f = .ok found) :
    found.isSome = o.isSome := by
  cases o with
  | none =>
    cases h
    rfl
  | some a =>
    obtain ⟨b, -, rfl⟩ := map_eq_ok_iff.1 (show some <$> f a = .ok found from h)
    rfl

end Portcullis.Steps
