import SessionHub.Session.Manager

/-!
# What operations change

An operation of the session manager runs commands, looks things up, and changes at most
one status entry, which it reports by at most one event: `Change` lists the ways in which
it does. The operations are proved to take one of these ways whatever the commands
answer.
-/

namespace SessionHub

open Broadcast (Hub)

/-! ## Running jobs -/

namespace Job

variable {Runner First Second : Type}

theorem bind_eq
    (job : Job First)
    (next : First → Job Second) :
    job >>= next = job.bind next := rfl

/-- A job that goes on with another runs the first and then the other. -/
theorem run_bind
    (runner : CommandRunner Runner)
    (job : Job First)
    (next : First → Job Second)
    (world : World Runner) :
    (job.bind next).run runner world =
      (next (job.run runner world).1).run runner (job.run runner world).2 := by
  induction job generalizing world with
  | done result => rfl
  | step action rest inductionHypothesis =>
      exact inductionHypothesis (world.act runner action).1 (world.act runner action).2

end Job

/-! ## Changes of the registry -/

/-- How a registry may change, and which events report it. -/
inductive Change (registry : StatusRegistry) : List Event → StatusRegistry → Prop
  | quiet : Change registry [] registry
  | created (session directory : String) (now : UInt64) :
      Change registry [.sessionCreated session directory]
        (registry.init session directory now)
  | updated (update : StatusUpdate) (now : UInt64) :
      Change registry [.status ⟨update.sessionId, registry.updatedEntry update now⟩]
        (registry.applyUpdate update now)
  | destroyed (session : String) :
      registry.get? session ≠ none →
      Change registry [.sessionDestroyed session] (registry.remove session)
  | missing (session : String) :
      registry.get? session = none →
      Change registry [] (registry.remove session)

/-- The hub after several events were published. -/
def Broadcast.Hub.publishAll (hub : Hub) (events : List Event) : Hub :=
  events.foldl (fun earlier event => (earlier.publish event).2) hub

namespace World

variable {Runner : Type} {before middle after : World Runner}

/-- Neither the registry nor any observer has noticed anything. -/
structure Unnoticed (before after : World Runner) : Prop where
  registry : after.registry = before.registry
  published : after.published = before.published
  hub : after.hub = before.hub

/-- A change of the registry was reported to all observers. -/
structure Reported (before after : World Runner) (events : List Event) : Prop where
  change : Change before.registry events after.registry
  published : after.published = before.published ++ events
  hub : after.hub = before.hub.publishAll events

theorem Unnoticed.refl (world : World Runner) : Unnoticed world world :=
  ⟨rfl, rfl, rfl⟩

theorem Unnoticed.trans
    (first : Unnoticed before middle)
    (second : Unnoticed middle after) :
    Unnoticed before after where
  registry := by rw [second.registry, first.registry]
  published := by rw [second.published, first.published]
  hub := by rw [second.hub, first.hub]

theorem Unnoticed.reported (unnoticed : Unnoticed before after) :
    Reported before after [] where
  change := by
    rw [unnoticed.registry]
    exact .quiet
  published := by rw [unnoticed.published, List.append_nil]
  hub := unnoticed.hub

theorem Unnoticed.trans_reported
    {events : List Event}
    (first : Unnoticed before middle)
    (second : Reported middle after events) :
    Reported before after events where
  change := by
    rw [← first.registry]
    exact second.change
  published := by rw [second.published, first.published]
  hub := by rw [second.hub, first.hub]

end World

/-! ## Jobs that are noticed -/

namespace Job

variable {First Second Result : Type}

/-- Nobody notices that the job runs, whatever the commands answer. -/
def IsQuiet (job : Job Result) : Prop :=
  ∀ (Runner : Type) (runner : CommandRunner Runner) (world : World Runner),
    world.Unnoticed (job.run runner world).2

/-- The job changes at most one entry and reports it, whatever the commands answer. -/
def IsReported (job : Job Result) : Prop :=
  ∀ (Runner : Type) (runner : CommandRunner Runner) (world : World Runner),
    ∃ events, world.Reported (job.run runner world).2 events

theorem isQuiet_pure (result : Result) : (pure result : Job Result).IsQuiet := by
  intro Runner runner world
  exact .refl world

theorem IsQuiet.bind
    {job : Job First}
    {next : First → Job Second}
    (quiet : job.IsQuiet)
    (quietNext : ∀ result, (next result).IsQuiet) :
    (job >>= next).IsQuiet := by
  intro Runner runner world
  rw [bind_eq, run_bind]
  exact (quiet Runner runner world).trans (quietNext _ Runner runner _)

theorem IsQuiet.isReported
    {job : Job Result}
    (quiet : job.IsQuiet) :
    job.IsReported := by
  intro Runner runner world
  exact ⟨[], (quiet Runner runner world).reported⟩

theorem IsQuiet.bind_isReported
    {job : Job First}
    {next : First → Job Second}
    (quiet : job.IsQuiet)
    (reportedNext : ∀ result, (next result).IsReported) :
    (job >>= next).IsReported := by
  intro Runner runner world
  rw [bind_eq, run_bind]
  obtain ⟨events, reported⟩ :=
    reportedNext (job.run runner world).1 Runner runner (job.run runner world).2
  exact ⟨events, (quiet Runner runner world).trans_reported reported⟩

/-- What is done with the result of a job is not noticed. -/
theorem IsReported.bind_pure
    {job : Job First}
    (reported : job.IsReported)
    (use : First → Second) :
    (job >>= fun result => pure (use result)).IsReported := by
  intro Runner runner world
  rw [bind_eq, run_bind]
  exact reported Runner runner world

section Choice

variable {condition : Prop} [Decidable condition]
variable {first second : Job Result}

theorem IsQuiet.ite
    (quietFirst : first.IsQuiet)
    (quietSecond : second.IsQuiet) :
    (if condition then first else second).IsQuiet := by
  split
  · exact quietFirst
  · exact quietSecond

theorem IsReported.ite
    (reportedFirst : first.IsReported)
    (reportedSecond : second.IsReported) :
    (if condition then first else second).IsReported := by
  split
  · exact reportedFirst
  · exact reportedSecond

end Choice

theorem isQuiet_drawWord : (perform .drawWord).IsQuiet := by
  intro Runner runner world
  exact ⟨rfl, rfl, rfl⟩

theorem isQuiet_fallbackDirectory : (perform .fallbackDirectory).IsQuiet := by
  intro Runner runner world
  exact ⟨rfl, rfl, rfl⟩

theorem isQuiet_lookup (session : String) : (perform (.lookup session)).IsQuiet := by
  intro Runner runner world
  exact ⟨rfl, rfl, rfl⟩

end Job

/-! ## The operations -/

namespace SessionManager

variable (manager : SessionManager)

theorem isQuiet_command (arguments : List String) : (manager.command arguments).IsQuiet := by
  intro Runner runner world
  exact ⟨rfl, rfl, rfl⟩

theorem isQuiet_newName (given : Option String) : (manager.newName given).IsQuiet := by
  cases given with
  | some name => exact Job.isQuiet_pure _
  | none => exact Job.isQuiet_drawWord.bind fun word => Job.isQuiet_pure _

theorem isReported_setUp (session directory : String) :
    (manager.setUp session directory).IsReported := by
  apply (manager.isQuiet_command _).bind_isReported
  intro mouse
  apply (manager.isQuiet_command _).bind_isReported
  intro screen Runner runner world
  exact ⟨[.sessionCreated session directory], .created session directory world.now, rfl, rfl⟩

theorem isReported_create (given : Option String) (directory : String) :
    (manager.create given directory).IsReported := by
  apply (manager.isQuiet_newName given).bind_isReported
  intro named
  cases named with
  | error failure => exact (Job.isQuiet_pure _).isReported
  | ok session =>
      apply (manager.isQuiet_command _).bind_isReported
      intro answer
      cases answer with
      | error failure => exact (Job.isQuiet_pure _).isReported
      | ok output =>
          apply Job.IsReported.ite
          · exact manager.isReported_setUp session directory
          · exact (Job.isQuiet_pure _).isReported

theorem isQuiet_summarize (row : Listing.Row) : (summarize row).IsQuiet := by
  apply (Job.isQuiet_lookup row.name).bind
  intro entry
  cases entry with
  | some entry => exact Job.isQuiet_pure _
  | none => exact Job.isQuiet_fallbackDirectory.bind fun directory => Job.isQuiet_pure _

theorem isQuiet_summarizeAll (rows : List Listing.Row) : (summarizeAll rows).IsQuiet := by
  induction rows with
  | nil => exact Job.isQuiet_pure _
  | cons row rest inductionHypothesis =>
      apply (isQuiet_summarize row).bind
      intro summary
      exact inductionHypothesis.bind fun others => Job.isQuiet_pure _

theorem isQuiet_list : manager.list.IsQuiet := by
  apply (manager.isQuiet_command _).bind
  intro answer
  cases answer with
  | error failure => exact Job.isQuiet_pure _
  | ok output =>
      apply Job.IsQuiet.ite
      · exact (isQuiet_summarizeAll _).bind fun summaries => Job.isQuiet_pure _
      · exact Job.isQuiet_pure _

theorem isQuiet_get (session : String) : (manager.get session).IsQuiet :=
  manager.isQuiet_list.bind fun _ => Job.isQuiet_pure _

theorem isQuiet_hasSession (session : String) : (manager.hasSession session).IsQuiet := by
  apply (manager.isQuiet_command _).bind
  intro answer
  cases answer with
  | error failure => exact Job.isQuiet_pure _
  | ok output => exact Job.isQuiet_pure _

theorem isReported_updateStatus (update : StatusUpdate) :
    (manager.updateStatus update).IsReported := by
  apply (manager.isQuiet_hasSession _).bind_isReported
  intro answer
  match answer with
  | .error failure => exact (Job.isQuiet_pure _).isReported
  | .ok false => exact (Job.isQuiet_pure _).isReported
  | .ok true =>
      intro Runner runner world
      exact ⟨_, .updated update world.now, rfl, rfl⟩

theorem isReported_destroy (session : String) : (manager.destroy session).IsReported := by
  apply (manager.isQuiet_command _).bind_isReported
  intro answer Runner runner world
  have removed : (Job.perform (.remove session)).run runner world =
      (world.registry.get? session,
        { world with registry := world.registry.remove session }) := rfl
  rw [Job.bind_eq, Job.run_bind, removed]
  cases entry : world.registry.get? session with
  | none => exact ⟨[], .missing session entry, (List.append_nil _).symm, rfl⟩
  | some known =>
      have present : world.registry.get? session ≠ none := by simp [entry]
      exact ⟨[.sessionDestroyed session], .destroyed session present, rfl, rfl⟩

end SessionManager

/-- What is asked of the session manager. -/
inductive SessionOperation
  | create (given : Option String) (directory : String)
  | list
  | get (session : String)
  | hasSession (session : String)
  | updateStatus (update : StatusUpdate)
  | destroy (session : String)

namespace SessionManager

variable (manager : SessionManager)

/-- Do what is asked, whatever comes of it. -/
def perform : SessionOperation → Job Unit
  | .create given directory => manager.create given directory >>= fun _ => pure ()
  | .list => manager.list >>= fun _ => pure ()
  | .get session => manager.get session >>= fun _ => pure ()
  | .hasSession session => manager.hasSession session >>= fun _ => pure ()
  | .updateStatus update => manager.updateStatus update >>= fun _ => pure ()
  | .destroy session => manager.destroy session

/-- Do what is asked, one after another. -/
def performAll : List SessionOperation → Job Unit
  | [] => pure ()
  | operation :: rest => manager.perform operation >>= fun _ => performAll rest

/-- Every operation changes at most one entry and reports it. -/
theorem isReported_perform (operation : SessionOperation) :
    (manager.perform operation).IsReported := by
  cases operation with
  | create given directory => exact (manager.isReported_create given directory).bind_pure _
  | list => exact manager.isQuiet_list.isReported.bind_pure _
  | get session => exact (manager.isQuiet_get session).isReported.bind_pure _
  | hasSession session => exact (manager.isQuiet_hasSession session).isReported.bind_pure _
  | updateStatus update => exact (manager.isReported_updateStatus update).bind_pure _
  | destroy session => exact manager.isReported_destroy session

end SessionManager
end SessionHub
