import Portcullis.Proofs.Session.Census
import Portcullis.Proofs.Session.Cookie
import Portcullis.Proofs.Session.Likeness

/-!
# Saving a context and loading it again

What is loaded after a save is what has been saved, if there was a session for it or one could be opened, and the empty
context otherwise. The other sessions are as they were, and whoever has come to life since has the id that has just been
issued. No time passes by the calls (`Store.Prompt`).

* `Repository.load_reach`: what is loaded is what the visit's session reaches.
* `Sessions.Leaves`: what an operation leaves behind for a session, the others being as they were;
  `Sessions.leaves_put`, `leaves_clear` and `leaves_create` for the calls.
* `Repository.save_leaves`: what a save leaves behind, in each of the ways it can go.
* `Repository.load_after_save`: the two together.
-/

namespace Portcullis

namespace Sessions

variable {s t u : Sessions} {session : Option SessionId} {id : SessionId} {c c' : SecurityContext}

/-- The session yields the context; all others are as they were. -/
structure Leaves (s : Sessions) (session : Option SessionId) (c : SecurityContext) (t : Sessions) : Prop where
  reach : t.reach session = c
  others : ∀ i, session ≠ some i → t.live? i = s.live? i

theorem Leaves.trans (h : s.Leaves session c t) (h' : t.Leaves session c' u) : s.Leaves session c' u where
  reach := h'.reach
  others i hi := (h'.others i hi).trans (h.others i hi)

/-- Nothing is done for a visit without a live session. -/
theorem leaves_of_dead (hdead : ∀ id, session = some id → ¬s.Alive id) (hsame : ∀ i, t.live? i = s.live? i) :
    s.Leaves session .empty t := by
  refine ⟨?_, fun i _ => hsame i⟩
  cases session with
  | none => rfl
  | some id =>
    have hnone : s.live? id = none := by simpa [Alive] using hdead id rfl
    simp [Sessions.reach, hsame, hnone]

theorem leaves_of_others (hreach : t.reach (some id) = c) (hothers : ∀ i, i ≠ id → t.live? i = s.live? i) :
    s.Leaves (some id) c t :=
  ⟨hreach, fun i hi => hothers i fun he => hi (he ▸ rfl)⟩

theorem leaves_touch (s : Sessions) (id : SessionId) : s.Leaves (some id) (s.reach (some id)) (s.touch id).2 := by
  apply leaves_of_others
  · cases hlive : s.live? id <;> simp [Sessions.reach, live?_touch, hlive]
  · intro i hi
    rw [live?_touch, if_neg hi]

theorem leaves_put (halive : s.Alive id) (c : SecurityContext) : s.Leaves (some id) c (s.put id c).2 := by
  obtain ⟨session, hlive⟩ := Option.isSome_iff_exists.1 halive
  apply leaves_of_others
  · simp [Sessions.reach, live?_put, hlive]
  · intro i hi
    rw [live?_put, if_neg hi]

theorem leaves_clear (s : Sessions) (id : SessionId) : s.Leaves (some id) .empty (s.clear id) := by
  apply leaves_of_others
  · cases hlive : s.live? id <;> simp [Sessions.reach, live?_clear, hlive]
  · intro i hi
    rw [live?_clear, if_neg hi]

/-- A session that is opened holds nothing, and the sweep that may come with it is not noticed. -/
theorem leaves_create (hd : s.Distinct) : s.Leaves (some (s.supply s.issued)) .empty s.create.2 := by
  apply leaves_of_others
  · simp [Sessions.reach, live?_create hd]
  · intro i hi
    rw [live?_create hd, if_neg hi]

theorem live?_touch_of_dead (hdead : ¬s.Alive id) (i : SessionId) : (s.touch id).2.live? i = s.live? i := by
  have hnone : s.live? id = none := by simpa [Alive] using hdead
  rw [live?_touch]
  split
  case isTrue hi => rw [hi, hnone, Option.map_none]
  case isFalse => rfl

end Sessions

namespace Visit

/-- The visit itself, or a new one that presents the session it is bound to. -/
def Continues (visit later : Visit) : Prop :=
  later = visit ∨ ∃ request name id, later = ofRequest request name ∧ visit.session = some id ∧
    request.cookie? name = some id.text

theorem Continues.session {visit later : Visit} (h : visit.Continues later) : later.session = visit.session := by
  rcases h with rfl | ⟨request, name, id, rfl, hsession, hcookie⟩
  · rfl
  · rw [ofRequest, hcookie, Option.bind_some, SessionId.ofCookie?_text, hsession]

end Visit

namespace Repository

variable {σ : Type} {store : Store σ} {view : σ → Sessions}

section

variable (hstore : store.Prompt view)
include hstore

theorem load_reach (allow always : Bool) (visit : Visit) (s : σ) :
    ((inSession store allow always).load visit s).1 = .ok ((view s).reach visit.session) := by
  cases hid : visit.session with
  | none => simp [inSession, hid, Sessions.reach]
  | some id =>
    obtain ⟨t, hfetch, -⟩ := (hstore.fetch id).apply s
    rw [Sessions.fetch_fst] at hfetch
    simp [inSession, hid, hfetch, Except.map, Sessions.reach]

theorem keepInSession_leaves {id : SessionId} {s : σ} (halive : (view s).Alive id) (c : SecurityContext)
    (visit : Visit) : ∃ t, keepInSession store id c (visit, s) = (.ok (), (visit, t)) ∧
      (view s).Leaves (some id) (if c.isPersistable then c else .empty) (view t) := by
  cases hc : c.isPersistable with
  | true =>
    obtain ⟨t, hput, hview⟩ := (hstore.put id c).apply s
    refine ⟨t, by simp [keepInSession, hc, hput, Except.map], ?_⟩
    rw [hview]
    exact Sessions.leaves_put halive c
  | false =>
    obtain ⟨t, hclear, hview⟩ := (hstore.clear id).apply s
    refine ⟨t, by simp [keepInSession, hc, hclear], ?_⟩
    rw [hview]
    exact Sessions.leaves_clear (view s) id

/-- The session that is opened is alive when the context is put into it, so that the save goes through. -/
theorem openSession_leaves {s : σ} (hd : (view s).Distinct) (c : SecurityContext) (visit : Visit) :
    ∃ t, openSession store c (visit, s) = (.ok (), (visit.bind ((view s).supply (view s).issued), t)) ∧
      (view s).Leaves (some ((view s).supply (view s).issued)) (if c.isPersistable then c else .empty) (view t) := by
  obtain ⟨t, hcreate, hview⟩ := hstore.create.apply s
  rw [Sessions.create_fst] at hcreate
  have hopened := Sessions.leaves_create hd
  rw [← hview] at hopened
  cases hc : c.isPersistable with
  | false => exact ⟨t, by simp [openSession, hcreate, hc], hopened⟩
  | true =>
    have halive : (view t).Alive ((view s).supply (view s).issued) := by
      rw [hview, (Sessions.adds_create hd).alive]
      exact .inl rfl
    obtain ⟨u, hput, hview'⟩ := (hstore.put ((view s).supply (view s).issued) c).apply t
    rw [Sessions.put_fst, halive] at hput
    refine ⟨u, by simp [openSession, hcreate, hc, hput], hopened.trans ?_⟩
    rw [hview']
    exact Sessions.leaves_put halive c

theorem keepWithoutSession_leaves (allow always : Bool) (c : SecurityContext) {visit : Visit} {s : σ}
    (hd : (view s).Distinct) (hdead : ¬visit.Lives (view s)) :
    ∃ visit' t, keepWithoutSession store allow always c (visit, s) = (.ok (), (visit', t)) ∧
      (view s).Leaves visit'.session (if c.isPersistable ∧ allow then c else .empty) (view t) := by
  have hnothing : (view s).Leaves visit.session .empty (view s) :=
    Sessions.leaves_of_dead (fun id hid halive => hdead ⟨id, hid, halive⟩) fun _ => rfl
  unfold keepWithoutSession
  split
  case isTrue hwant =>
    have hc : c.isPersistable = false := by
      simp only [Bool.and_eq_true, Bool.not_eq_true'] at hwant
      exact hwant.1
    exact ⟨visit, s, rfl, by simpa [hc] using hnothing⟩
  case isFalse =>
    cases allow with
    | false => exact ⟨visit, s, rfl, by simpa using hnothing⟩
    | true =>
      obtain ⟨t, hopen, hleaves⟩ := openSession_leaves hstore hd c visit
      exact ⟨_, t, hopen, by simpa [Visit.bind] using hleaves⟩

/-- A save leaves the context behind if it is worth keeping, and there is a session for it or one may be opened. -/
theorem save_leaves (allow always : Bool) (c : SecurityContext) (visit : Visit) {s : σ} (hd : (view s).Distinct) :
    ∃ visit' t, (inSession store allow always).save c (visit, s) = (.ok (), (visit', t)) ∧
      (view s).Leaves visit'.session
        (if c.isPersistable ∧ (visit.Lives (view s) ∨ allow) then c else .empty) (view t) := by
  cases hid : visit.session with
  | none =>
    have hdead : ¬visit.Lives (view s) := by simp [Visit.Lives, hid]
    obtain ⟨visit', t, hkeep, hleaves⟩ := keepWithoutSession_leaves hstore allow always c hd hdead
    exact ⟨visit', t, by simp [inSession, hid, hkeep], by simpa [hdead] using hleaves⟩
  | some id =>
    obtain ⟨u, hlive, hview⟩ := (hstore.isLive id).apply s
    rw [Sessions.touch_fst] at hlive
    have hstays := (view s).stays_touch id
    rw [← hview] at hstays
    by_cases halive : (view s).Alive id
    · rw [halive] at hlive
      have hvisit : visit.Lives (view s) := ⟨id, hid, halive⟩
      obtain ⟨t, hkeep, hleaves⟩ := keepInSession_leaves hstore ((hstays.alive id).2 halive) c visit
      refine ⟨visit, t, by simp [inSession, hid, hlive, hkeep], ?_⟩
      have hused := (view s).leaves_touch id
      rw [← hview] at hused
      simpa [hvisit, hid] using hused.trans hleaves
    · have hnone : ((view s).live? id).isSome = false := by simpa [Sessions.Alive] using halive
      rw [hnone] at hlive
      have hdead : ¬visit.Lives (view s) := by
        rintro ⟨i, hi, hlives⟩
        rw [hid, Option.some.injEq] at hi
        exact halive (hi ▸ hlives)
      have hdead' : ¬visit.Lives (view u) := by
        rintro ⟨i, hi, hlives⟩
        exact hdead ⟨i, hi, (hstays.alive i).1 hlives⟩
      obtain ⟨visit', t, hkeep, hleaves⟩ :=
        keepWithoutSession_leaves hstore allow always c (hstays.distinct hd) hdead'
      refine ⟨visit', t, by simp [inSession, hid, hlive, hkeep], ?_, fun i hi => ?_⟩
      · simpa [hdead] using hleaves.reach
      · rw [hleaves.others i hi, hview, Sessions.live?_touch_of_dead halive]

end

/-- A save succeeds. Afterwards the visit, or a new one that presents its session, finds the context if that is worth
keeping and there was a live session for it, or one could be opened; and the empty context otherwise. No other session
has changed, and of the ids without a live session only the one just issued can have got one, and the visit is bound to
it then. -/
theorem load_after_save (hstore : store.Prompt view) (allow always : Bool) (c : SecurityContext) (visit : Visit)
    {s : σ} (hd : (view s).Distinct) :
    ∃ visit' t, (inSession store allow always).save c (visit, s) = (.ok (), (visit', t)) ∧
      (∀ later, visit'.Continues later → ((inSession store allow always).load later t).1 =
        .ok (if c.isPersistable ∧ (visit.Lives (view s) ∨ allow) then c else .empty)) ∧
      (∀ i, visit'.session ≠ some i → (view t).live? i = (view s).live? i) ∧
      ∀ i, ¬(view s).Alive i → (view t).Alive i →
        i = (view s).supply (view s).issued ∧ visit' = visit.bind i ∧ allow := by
  obtain ⟨visit', t, hsave, hleaves⟩ := save_leaves hstore allow always c visit hd
  refine ⟨visit', t, hsave, fun later hlater => ?_, hleaves.others, fun i hwas his => ?_⟩
  · rw [load_reach hstore, hlater.session, hleaves.reach]
  · obtain ⟨visit'', t', hcounts, hsaves⟩ := save_counts hstore allow always c visit hd
    rw [hsave] at hcounts
    obtain ⟨rfl, rfl⟩ := Prod.mk.inj hcounts
    cases hsaves with
    | stays hstays _ => exact absurd ((hstays.alive i).1 his) hwas
    | opens hadds _ hallow _ =>
      obtain rfl | halive := (hadds.alive i).1 his
      · exact ⟨rfl, rfl, hallow⟩
      · exact absurd halive hwas

/-- Bob has a session; the next id is another one. -/
def bobAlone : Sessions where
  supply := Ulid.ofNat
  held := [(Ulid.ofNat 0, ⟨some ⟨some ⟨"bob", [], true, .formLogin⟩⟩, 0⟩)]
  created := 1
  issued := 1

/-- A visit with an id that somebody has made up. -/
def visitWithGuess : Visit where
  request := { method := .get, path := "/" }
  cookieName := "SESSION"
  session := some (Ulid.ofNat 77)

/-- What the visit leaves with. -/
def carol : SecurityContext :=
  ⟨some ⟨"carol", [], true, .formLogin⟩⟩

/-- Carol gets a session of her own, from which her context is loaded; the id that she has made up does not come to
life, and Bob keeps his session. -/
theorem load_after_save_with_guess : bobAlone.Distinct ∧
    ∃ visit' t, (inSession Sessions.store true false).save carol (visitWithGuess, bobAlone) = (.ok (), (visit', t)) ∧
      visit'.session = some (Ulid.ofNat 1) ∧ ((inSession Sessions.store true false).load visit' t).1 = .ok carol ∧
      t.live? (Ulid.ofNat 0) = bobAlone.live? (Ulid.ofNat 0) ∧ ¬t.Alive (Ulid.ofNat 77) := by
  have hd : bobAlone.Distinct := List.nodup_singleton _
  obtain ⟨visit', t, hsave, hload, hothers, hborn⟩ :=
    load_after_save (s := bobAlone) Sessions.store_prompt true false carol visitWithGuess hd
  have hsession : visit'.session = some (Ulid.ofNat 1) := by
    have hbound : ((inSession Sessions.store true false).save carol (visitWithGuess, bobAlone)).2.1.session =
        some (Ulid.ofNat 1) := rfl
    rwa [hsave] at hbound
  refine ⟨hd, visit', t, hsave, hsession, ?_, hothers _ ?_, fun halive => ?_⟩
  · exact hload visit' (.inl rfl)
  · rw [hsession]
    decide
  · have hdead : ¬bobAlone.Alive (Ulid.ofNat 77) := by decide
    have hnew : Ulid.ofNat 77 = Ulid.ofNat 1 := (hborn _ hdead halive).1
    exact absurd hnew (by decide)

end Repository

end Portcullis
