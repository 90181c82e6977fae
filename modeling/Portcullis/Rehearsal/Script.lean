import Portcullis.Rehearsal.Backend

/-!
# Scripts

What handlers and stages do in a rehearsal, written as lists of actions, and the calls that are made to the session
store directly.

* `StoreCall.run`: a call to the store.
* `script`: a list of actions as a program, for a stage (`scriptedStage`) or a handler (`scriptedHandler`).
-/

namespace Portcullis.Rehearsal

/-- A call to the session store. Ids are texts, in which names stand for ids issued before. -/
inductive StoreCall
  | create
  | createMany (n : Nat)
  | isLive (id : String)
  | fetch (id : String)
  | put (id : String) (authentication : Option Authentication)
  | clear (id : String)
  | invalidate (id : String)
  | rotate (id : String)
  | purge
  | isEmpty
  /-- Time passes. -/
  | wait (ms : Nat)
  /-- From now on exactly these calls are refused. -/
  | refuse (calls : List String)
  | vanish (b : Bool)

namespace StoreCall

/-- The outcome of an operation as a result. -/
def settle {α : Type} (f : α → CallResult) (outcome : Except RepositoryError α × Rehearsal) : CallResult × Rehearsal :=
  match outcome with
  | (.ok a, r) => (f a, r)
  | (.error e, r) => (.failed e, r)

/-- Makes a call with the id that a text stands for. -/
def withId (r : Rehearsal) (id : String) (call : SessionId → CallResult × Rehearsal) : CallResult × Rehearsal :=
  match Ulid.parse (r.expand id) with
  | .ok id => call id
  | .error _ => (.noId, r)

/-- Opens sessions, until a call is refused. -/
def openSessions (r : Rehearsal) : Nat → CallResult × Rehearsal
  | 0 => (.nothing, r)
  | n + 1 =>
    match store.create r with
    | (.ok _, r) => openSessions r n
    | (.error e, r) => (.failed e, r)

/-- Makes a call. -/
def run (r : Rehearsal) : StoreCall → CallResult × Rehearsal
  | .create => settle (.id ∘ some) (store.create r)
  | .createMany n => openSessions r n
  | .isLive id => withId r id fun id => settle .flag (store.isLive id r)
  | .fetch id => withId r id fun id => settle .context (store.fetch id r)
  | .put id a => withId r id fun id => settle .flag (store.put id ⟨a⟩ r)
  | .clear id => withId r id fun id => settle (fun _ => .nothing) (store.clear id r)
  | .invalidate id => withId r id fun id => settle (fun _ => .nothing) (store.invalidate id r)
  | .rotate id => withId r id fun id => settle .id (store.rotate id r)
  | .purge => (.count r.sessions.purgeCount, { r with sessions := r.sessions.purge })
  | .isEmpty => (.flag r.sessions.held.isEmpty, r)
  | .wait ms => (.nothing, { r with sessions := r.sessions.wait ms })
  | .refuse calls => (.nothing, { r with refused := calls })
  | .vanish b => (.nothing, { r with vanishing := b })

end StoreCall

/-- One action of a script. -/
inductive Action
  | authenticate (a : Authentication)
  | clear
  /-- Saves the context, and notes whether there was a hook for it; a failure ends the script. -/
  | save
  /-- The same, with a failure noted instead. -/
  | trySave
  | rotate
  | queue (name value : String)
  | snapshot
  | mark (name : String)
  /-- Ends the session of the exchange in the store. -/
  | invalidate
  | call (c : StoreCall)
  | wait (ms : Nat)
  | fail (reason : String)
  | respond (r : Response)

namespace Action

/-- Notes something down, and goes on. -/
def noting (n : Note) (next : Program Rehearsal) : Program Rehearsal :=
  .touch (note n) fun _ => next

/-- Ends a session; a failure ends the script. -/
def invalidating (id : SessionId) (next : Program Rehearsal) : Program Rehearsal :=
  .touch (fun r => (store.invalidate id r).2) fun r =>
    if r.refused.contains "invalidate" then .fail (.repository ⟨"store", "invalidate refused"⟩) else next

/-- One action, and what follows: the response if the action gives one, and otherwise the rest of the script. -/
def program (next : Program Rehearsal) (finish : Option Response → Program Rehearsal) : Action → Program Rehearsal
  | .authenticate a => .authenticate a next
  | .clear => .clear next
  | .save => .save fun
    | .ok b => noting (.saved b) next
    | .error e => .fail (.repository e)
  | .trySave => .save fun result => noting (.triedSave result) next
  | .rotate => .rotate fun
    | .ok b => noting (.rotated b) next
    | .error e => .fail (.repository e)
  | .queue name value => .queue name value next
  | .snapshot => .look fun e => noting (.snapshot (.of e)) next
  | .mark name => .mark name fun b => noting (.marked b) next
  | .invalidate => .look fun e =>
    match e.session with
    | some id => invalidating id next
    | none => next
  | .call c => .touch (fun r => let (result, r) := c.run r; note (.called result) r) fun _ => next
  | .wait ms => .touch (fun r => { r with sessions := r.sessions.wait ms }) fun _ => next
  | .fail reason => .fail (.handler reason)
  | .respond r => finish (some r)

end Action

/-- A list of actions as a program; what is done at the end depends on whether they gave a response. -/
def script (finish : Option Response → Program Rehearsal) : List Action → Program Rehearsal
  | [] => finish none
  | a :: rest => a.program (script finish rest) finish

/-- A stage that runs one script before it passes the request on, and one after. -/
def scriptedStage (name : String) (before after : List Action) : Stage Rehearsal :=
  .custom name <| .ahead fun n => Action.noting (.entered name n) <|
    script (fun
      | some response => .answer response
      | none => .pass fun
        | .error failure => .fail failure
        | .ok response => Action.noting (.left name response.status) <|
          script (fun replacement => .answer (replacement.getD response)) after) before

/-- The answer of a handler that gives no other: who the request speaks for. -/
def principalResponse (context : SecurityContext) : Response :=
  .json 200 (.object [("principal", .ofOption (context.authentication.map (·.principal)))])

/-- A handler that runs a script. -/
def scriptedHandler (actions : List Action) : Flow Rehearsal Response :=
  Program.handle <| Action.noting .handler <|
    script (fun
      | some response => .answer response
      | none => .look fun e => .answer (principalResponse e.context)) actions

/-- Notes entering a stage. -/
def announce (tag : String) (only : Option String) (stage : Stage Rehearsal) : Stage Rehearsal :=
  if only.all (· = stage.name) then .entered (note (.wrapped tag stage.name)) stage else stage

end Portcullis.Rehearsal
