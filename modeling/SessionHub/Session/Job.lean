import SessionHub.Broadcast.Hub
import SessionHub.Command
import SessionHub.Status.Registry

/-!
# Jobs of the server

What the server does for a request is a job: a finite chain of atomic actions, where
what follows an action may depend on its answer. A job can be run to its end, or be
advanced action by action so that several jobs interleave.
-/

namespace SessionHub

open Broadcast (Hub)

/-- An atomic action of the server. -/
inductive Action
  /-- Run a command. -/
  | command (call : CommandCall)
  /-- Draw a random word. -/
  | drawWord
  /-- Look up the fallback directory. -/
  | fallbackDirectory
  /-- Look up the status entry of a session. -/
  | lookup (session : String)
  /-- Make a fresh status entry. -/
  | init (session directory : String)
  /-- Store an update and build its event. -/
  | applyUpdate (update : StatusUpdate)
  /-- Remove a status entry. -/
  | remove (session : String)
  /-- Tell all observers of an event. -/
  | publish (event : Event)
  /-- Send a payload to the observers of a scope. -/
  | notify (scope : String) (payload : Json.Value)

/-- What an action answers. -/
def Action.Answer : Action → Type
  | .command _ => CommandResult
  | .drawWord => UInt32
  | .fallbackDirectory => String
  | .lookup _ => Option StatusEntry
  | .init _ _ => Unit
  | .applyUpdate _ => StatusEvent
  | .remove _ => Option StatusEntry
  | .publish _ => Nat
  | .notify _ _ => Nat

/-- A chain of actions that ends with a result. -/
inductive Job (Result : Type)
  | done (result : Result)
  | step (action : Action) (next : action.Answer → Job Result)

namespace Job

/-- Go on with another job after the result of the first. -/
def bind : Job First → (First → Job Second) → Job Second
  | .done result, next => next result
  | .step action rest, next => .step action fun answer => (rest answer).bind next

instance : Monad Job where
  pure := .done
  bind := bind

/-- The job of one action. -/
def perform (action : Action) : Job action.Answer :=
  .step action .done

end Job

/-! ## Where jobs act -/

/-- What jobs act upon. `runner` is the state of whatever runs commands. -/
structure World (Runner : Type) where
  registry : StatusRegistry
  hub : Hub
  runner : Runner
  /-- The commands that were run, in order. -/
  calls : List CommandCall := []
  /-- The events that were published, in order. -/
  published : List Event := []
  /-- The time in milliseconds at each look at the clock. -/
  clock : Nat → UInt64
  /-- How many looks were taken at the clock. -/
  looks : Nat := 0
  /-- The random words. -/
  words : Nat → UInt32
  /-- How many random words were drawn. -/
  drawn : Nat := 0

namespace World

variable {Runner : Type}

/-- The time at the next look at the clock. -/
def now (world : World Runner) : UInt64 :=
  world.clock world.looks

/-- The effect of an action, and its answer. -/
def act (run : CommandRunner Runner) (world : World Runner) :
    (action : Action) → action.Answer × World Runner
  | .command call =>
    let (result, runner) := run call world.runner
    (result, { world with runner, calls := world.calls ++ [call] })
  | .drawWord => (world.words world.drawn, { world with drawn := world.drawn + 1 })
  | .fallbackDirectory => (world.registry.fallback, world)
  | .lookup session => (world.registry.get? session, world)
  | .init session directory =>
    ((),
      { world with
        registry := world.registry.init session directory world.now
        looks := world.looks + 1 })
  | .applyUpdate update =>
    (⟨update.sessionId, world.registry.updatedEntry update world.now⟩,
      { world with
        registry := world.registry.applyUpdate update world.now
        looks := world.looks + 1 })
  | .remove session =>
    (world.registry.get? session, { world with registry := world.registry.remove session })
  | .publish event =>
    let (count, hub) := world.hub.publish event
    (count, { world with hub, published := world.published ++ [event] })
  | .notify scope payload =>
    let (count, hub) := world.hub.notify scope payload
    (count, { world with hub })

end World

namespace Job

variable {Runner : Type}

/-- Run a job to its end. -/
def run (runner : CommandRunner Runner) : Job Result → World Runner → Result × World Runner
  | .done result, world => (result, world)
  | .step action next, world =>
    let (answer, world) := world.act runner action
    (next answer).run runner world

/-- Advance a job by one action, if it is not done. -/
def advance (runner : CommandRunner Runner) :
    Job Result → World Runner → Job Result × World Runner
  | .done result, world => (.done result, world)
  | .step action next, world =>
    let (answer, world) := world.act runner action
    (next answer, world)

/-- Whether a job has come to its end. -/
def isDone : Job Result → Bool
  | .done _ => true
  | .step _ _ => false

end Job
end SessionHub
