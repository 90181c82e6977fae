import Portcullis.Proofs.Guard.Licensed
import Portcullis.Proofs.Pipeline.Pairing
import Portcullis.Proofs.Session.Census

/-!
# Steps and sessions

Where contexts are kept in the sessions of one store and hosts leave those alone, a step of a run saves or rotates as
the repository of sessions does, or it leaves visit and sessions as they were, up to header fields that it queues
(`Licence.Effect.turn`).
-/

namespace Portcullis

variable {σ : Type}

/-- What one step does to a visit and to the sessions: `lets` says which fields may be queued, and `modes` how contexts
are kept, nowhere or in sessions, and then whether sessions may be opened and whether they are opened always. The flag
says whether it is a save of the context. -/
inductive Sessions.Turn (lets : Headers → Prop) (modes : Option (Bool × Bool) → Prop) (context : SecurityContext) :
    Bool → Visit → Sessions → Visit → Sessions → Prop
  | stays (visit : Visit) {s t : Sessions} (h : s.Stays t) : Turn lets modes context false visit s visit t
  | queue {name value : String} (hq : lets [(name, value)]) (visit : Visit) (s : Sessions) :
    Turn lets modes context false visit s { visit with pending := visit.pending ++ [(name, value)] } s
  | nowhere (hmode : modes none) (visit : Visit) (s : Sessions) : Turn lets modes context true visit s visit s
  | saves {allow always : Bool} (hmode : modes (some (allow, always))) {visit visit' : Visit} {s t : Sessions}
    (h : s.Saves allow always context visit visit' t) : Turn lets modes context true visit s visit' t
  | rotates {visit visit' : Visit} {s t : Sessions} (h : s.Rotates visit visit' t) :
    Turn lets modes context false visit s visit' t

/-- The host leaves the sessions of a store alone, but for saves and rotations; repositories keep contexts in these
sessions or nowhere, in modes of one kind. -/
structure Licence.Minds (l : Licence σ) (view : σ → Sessions) (store : Store σ) (modes : Option (Bool × Bool) → Prop) :
    Prop where
  behind : ∀ f, l.behind f → SparesSessions view f
  binds : ¬l.binds
  repositories : ∀ repository, l.repositories repository → modes none ∧ repository = .none ∨
    ∃ allow always, modes (some (allow, always)) ∧ repository = .inSession store allow always

variable {view : σ → Sessions} {store : Store σ} {l : Licence σ} {modes : Option (Bool × Bool) → Prop}
  {context : SecurityContext} {saves : Bool} {before after : Visit × σ}

theorem Licence.Effect.turn (h : l.Effect context saves before after) (hl : l.Minds view store modes)
    (hstore : store.Prompt view) (hd : (view before.2).Distinct) :
    Sessions.Turn l.Lets modes context saves before.1 (view before.2) after.1 (view after.2) := by
  cases h with
  | still visit s => exact .stays visit (.refl _)
  | behind hf visit s =>
    simp only
    rw [hl.behind _ hf]
    exact .stays visit (.refl _)
  | @load repository hr visit s =>
    rcases hl.repositories _ hr with ⟨-, rfl⟩ | ⟨allow, always, -, rfl⟩
    · exact .stays visit (.refl _)
    · obtain ⟨c, t, hload, hstays⟩ := Repository.load_stays hstore allow always visit s
      rw [hload]
      exact .stays visit hstays
  | @save repository hr hs visit s =>
    rcases hl.repositories _ hr with ⟨hmode, rfl⟩ | ⟨allow, always, hmode, rfl⟩
    · exact .nowhere hmode visit (view s)
    · obtain ⟨visit', t, hsave, hsaves⟩ := Repository.save_counts hstore allow always context visit hd
      rw [hsave]
      exact .saves hmode hsaves
  | @rotate repository hr hs visit s =>
    rcases hl.repositories _ hr with ⟨-, rfl⟩ | ⟨allow, always, -, rfl⟩
    · exact .stays visit (.refl _)
    · obtain ⟨visit', t, hrotate, hrotates⟩ := Repository.rotate_counts hstore allow always visit s
      rw [hrotate]
      exact .rotates hrotates
  | bind hb id visit s => exact absurd hb hl.binds
  | queue hq visit s => exact .queue hq visit (view s)

end Portcullis
