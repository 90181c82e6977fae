import Portcullis.Proofs.Session.Keeping

/-!
# Sessions that are only used

Where nothing is done to the sessions but to ask for their contexts, and time passes, they hold what they have held: no
id comes to life, and whoever lives keeps their context until they expire (`Sessions.OnlyUsed`).
-/

namespace Portcullis

namespace Sessions

/-- The sessions have been used, and time has passed; nothing else has been done to them. -/
structure OnlyUsed (s t : Sessions) : Prop where
  supply : t.supply = s.supply
  timeout : t.timeout = s.timeout
  created : t.created = s.created
  issued : t.issued = s.issued
  now : s.now ≤ t.now
  /-- Who lives has lived before, and holds the same context. -/
  held : ∀ i y, t.live? i = some y → ∃ x, s.live? i = some x ∧ y.context = x.context
  /-- Who has lived lives, holds the same context and has been used no earlier; or has expired since. No use counts as
  later than the clock has been when it was looked at. -/
  kept : ∀ i x, s.live? i = some x →
    (∃ y, t.live? i = some y ∧ y.context = x.context ∧ min x.lastUsed s.now ≤ y.lastUsed) ∨
      t.isDead { x with lastUsed := min x.lastUsed s.now } = true

namespace OnlyUsed

variable {s t : Sessions}

theorem refl (s : Sessions) : s.OnlyUsed s where
  supply := rfl
  timeout := rfl
  created := rfl
  issued := rfl
  now := Nat.le_refl _
  held _ y hy := ⟨y, hy, rfl⟩
  kept _ x hx := .inl ⟨x, hx, rfl, Nat.min_le_left _ _⟩

theorem wait (h : s.OnlyUsed t) (ms : Nat) : s.OnlyUsed (t.wait ms) where
  supply := h.supply
  timeout := h.timeout
  created := h.created
  issued := h.issued
  now := Nat.le_trans h.now (Nat.le_add_right _ _)
  held i y hy := by
    rw [live?_wait] at hy
    exact h.held i y (Option.filter_eq_some_iff.1 hy).1
  kept i x hx := by
    rcases h.kept i x hx with ⟨y, hy, hcontext, hused⟩ | hdead
    · cases hexpired : (t.wait ms).isDead y with
      | false =>
        refine .inl ⟨y, ?_, hcontext, hused⟩
        rw [live?_wait, hy]
        simp [Option.filter_some, hexpired]
      | true =>
        -- Unused for too long since a use that is no earlier.
        right
        cases htimeout : t.timeout with
        | none => simp [isDead, Sessions.wait, htimeout] at hexpired
        | some limit =>
          simp only [isDead, Sessions.wait, htimeout, Option.any_some, decide_eq_true_eq] at hexpired ⊢
          omega
    · exact .inr (isDead_wait hdead ms)

theorem touch (h : s.OnlyUsed t) (id : SessionId) : s.OnlyUsed (t.touch id).2 where
  supply := (t.touch_supply id).trans h.supply
  timeout := (t.touch_timeout id).trans h.timeout
  created := by
    obtain ⟨held, htouch⟩ := t.touch_snd id
    rw [htouch]
    exact h.created
  issued := (t.touch_issued id).trans h.issued
  now := by
    rw [touch_now]
    exact h.now
  held i y hy := by
    rw [live?_touch] at hy
    split at hy
    case isTrue hi =>
      obtain ⟨y', hy', rfl⟩ := Option.map_eq_some_iff.1 hy
      rw [hi]
      exact h.held id y' hy'
    case isFalse => exact h.held i y hy
  kept i x hx := by
    rcases h.kept i x hx with ⟨y, hy, hcontext, hused⟩ | hdead
    · left
      rw [live?_touch]
      split
      case isTrue hi =>
        rw [← hi, hy]
        exact ⟨_, rfl, hcontext, Nat.le_trans (Nat.min_le_right _ _) h.now⟩
      case isFalse => exact ⟨y, hy, hcontext, hused⟩
    · right
      obtain ⟨held, htouch⟩ := t.touch_snd id
      rw [htouch]
      exact hdead

/-- Where no time has passed, the sessions that live and what they hold are the same. -/
theorem live?_context (h : s.OnlyUsed t) (hnow : t.now = s.now) (i : SessionId) :
    (t.live? i).map (·.context) = (s.live? i).map (·.context) := by
  cases hs : s.live? i with
  | none =>
    cases ht : t.live? i with
    | none => rfl
    | some y =>
      obtain ⟨x, hx, -⟩ := h.held i y ht
      simp [hs] at hx
  | some x =>
    rcases h.kept i x hs with ⟨y, hy, hcontext, -⟩ | hdead
    · rw [hy, Option.map_some, Option.map_some, hcontext]
    · -- Nobody who lives expires while the clock stands still.
      have halive : s.isDead x = false := (live?_eq_some_iff.1 hs).2
      cases htimeout : s.timeout with
      | none => simp [isDead, h.timeout, htimeout] at hdead
      | some limit =>
        simp only [isDead, h.timeout, htimeout, hnow, Option.any_some, decide_eq_true_eq, decide_eq_false_iff_not]
          at hdead halive
        omega

end OnlyUsed

end Sessions

/-- Loading uses the session that a visit is bound to; time may pass first. -/
theorem Repository.load_uses {σ : Type} {store : Store σ} {view : σ → Sessions} (hstore : store.InMemory view)
    (allow always : Bool) (visit : Visit) {start : Sessions} {s : σ} (h : start.OnlyUsed (view s)) :
    start.OnlyUsed (view ((inSession store allow always).load visit s).2) := by
  cases hid : visit.session with
  | none =>
    have hload : (inSession store allow always).load visit s = (.ok .empty, s) := by simp [inSession, hid]
    rw [hload]
    exact h
  | some id =>
    obtain ⟨ms, -, hview⟩ := hstore.fetch id s
    have hload : ((inSession store allow always).load visit s).2 = (store.fetch id s).2 := by simp [inSession, hid]
    rw [hload, hview, Sessions.fetch_snd]
    exact (h.wait ms).touch id

end Portcullis
