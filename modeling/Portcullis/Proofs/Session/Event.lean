import Portcullis.Session.Memory

/-!
# What happens to a session store

Calls to a store and the passing of time, as events: `TimedStore.take` answers one event, `TimedStore.answers` a list of
them in order.
-/

namespace Portcullis

/-- Something that happens to a session store. -/
inductive StoreEvent
  | create
  | isLive (id : SessionId)
  | fetch (id : SessionId)
  | put (id : SessionId) (context : SecurityContext)
  | clear (id : SessionId)
  | invalidate (id : SessionId)
  | rotate (id : SessionId)
  /-- The dead sessions are to be swept out. -/
  | purge
  /-- Time passes. -/
  | wait (ms : Nat)

/-- What a store answers. -/
inductive StoreAnswer
  | done
  | flag (b : Bool)
  | id (id : Option SessionId)
  | context (c : Option SecurityContext)
  | failed (e : RepositoryError)
  deriving DecidableEq

/-- A session store that can be swept, and that time passes by. -/
structure TimedStore (σ : Type) extends Store σ where
  /-- Drops what is dead. -/
  purge : σ → σ
  /-- Lets this many milliseconds pass. -/
  wait : σ → Nat → σ

namespace TimedStore

variable {σ : Type}

/-- The answer that an outcome stands for, and the state it leaves. -/
def settle {α : Type} (answer : α → StoreAnswer) : Except RepositoryError α × σ → StoreAnswer × σ
  | (.ok a, s) => (answer a, s)
  | (.error e, s) => (.failed e, s)

/-- Answers one event. -/
def take (t : TimedStore σ) (s : σ) : StoreEvent → StoreAnswer × σ
  | .create => settle (.id ∘ some) (t.create s)
  | .isLive id => settle .flag (t.isLive id s)
  | .fetch id => settle .context (t.fetch id s)
  | .put id context => settle .flag (t.put id context s)
  | .clear id => settle (fun _ => .done) (t.clear id s)
  | .invalidate id => settle (fun _ => .done) (t.invalidate id s)
  | .rotate id => settle .id (t.rotate id s)
  | .purge => (.done, t.purge s)
  | .wait ms => (.done, t.wait s ms)

/-- The answers to events, in order. -/
def answers (t : TimedStore σ) (s : σ) : List StoreEvent → List StoreAnswer
  | [] => []
  | e :: rest => (t.take s e).1 :: t.answers (t.take s e).2 rest

/-- The state after events. -/
def after (t : TimedStore σ) (s : σ) : List StoreEvent → σ
  | [] => s
  | e :: rest => t.after (t.take s e).2 rest

/-- The store knows no session of this id: no call that asks for one finds it. -/
def Lost (t : TimedStore σ) (s : σ) (id : SessionId) : Prop :=
  (t.take s (.isLive id)).1 = .flag false ∧ (t.take s (.fetch id)).1 = .context none ∧
    (∀ context, (t.take s (.put id context)).1 = .flag false) ∧ (t.take s (.rotate id)).1 = .id none

theorem after_append (t : TimedStore σ) (s : σ) (first second : List StoreEvent) :
    t.after s (first ++ second) = t.after (t.after s first) second := by
  induction first generalizing s with
  | nil => rfl
  | cons e rest ih => exact ih _

theorem answers_append (t : TimedStore σ) (s : σ) (first second : List StoreEvent) :
    t.answers s (first ++ second) = t.answers s first ++ t.answers (t.after s first) second := by
  induction first generalizing s with
  | nil => rfl
  | cons e rest ih => exact congrArg _ (ih _)

end TimedStore

/-- No sessions yet. -/
def Sessions.empty (supply : Nat → SessionId) (timeout : Option Nat) : Sessions where
  supply := supply
  timeout := timeout

/-- The sessions in memory, on their clock. -/
def Sessions.timed : TimedStore Sessions where
  toStore := Sessions.store
  purge := Sessions.purge
  wait := Sessions.wait

end Portcullis
