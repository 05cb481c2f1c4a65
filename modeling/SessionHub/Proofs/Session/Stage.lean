import SessionHub.Proofs.Session.Operation

/-!
# Stages of a request

A request to change a session goes through stages, one atomic action each. Every job that
is left of such a request is the job of a stage, and to advance the job is to go on to the
next stage: `Stage.advance_job` is the only place where the jobs themselves are looked at.
-/

namespace SessionHub

/-- A request that changes what is known of sessions. -/
inductive ChangeRequest
  | create (given : Option String) (directory : String)
  | update (change : StatusUpdate)
  | destroy (session : String)

/-- What the session manager is asked for. -/
def ChangeRequest.operation : ChangeRequest → SessionOperation
  | .create given directory => .create given directory
  | .update change => .updateStatus change
  | .destroy session => .destroy session

namespace Job

/-- The action that a job takes next. -/
def action? : Job Result → Option Action
  | .done _ => none
  | .step action _ => some action

/-- Actions whose answers do not matter, one after another. -/
def chain : List Action → Job Unit
  | [] => .done ()
  | action :: rest => .step action fun _ => chain rest

end Job

theorem CommandOutput.isSuccess_iff {output : CommandOutput} :
    output.isSuccess = true ↔ output.exitCode = 0 :=
  decide_eq_true_iff

/-- Whether a command came to its end and was successful. -/
def succeeded : CommandResult → Bool
  | .ok output => output.isSuccess
  | .error _ => false

namespace SessionManager

variable (manager : SessionManager)

/-- The call of a command of the multiplexer. -/
def call (arguments : List String) : CommandCall :=
  ⟨manager.argv arguments, manager.settings.commandLimit.toNat⟩

/-- The arguments that ask whether there is a session. -/
def checkArguments (session : String) : List String :=
  ["has-session", "-t", SessionName.exactTarget session]

/-- The arguments that end a session. -/
def killArguments (session : String) : List String :=
  ["kill-session", "-t", SessionName.exactTarget session]

section Command

variable {Runner : Type} (runner : CommandRunner Runner) (world : World Runner)
variable (arguments : List String)

/-- What a command answers that is run in a world. -/
def answer : CommandResult :=
  (runner (manager.call arguments) world.runner).1

/-- The world in which a command has been run. -/
def afterCommand : World Runner :=
  { world with
    runner := (runner (manager.call arguments) world.runner).2
    calls := world.calls ++ [manager.call arguments] }

/-- A job that begins with a command goes on with its answer. -/
theorem run_command_bind {Result : Type} (next : CommandResult → Job Result) :
    (manager.command arguments >>= next).run runner world =
      (next (manager.answer runner world arguments)).run runner
        (manager.afterCommand runner world arguments) := rfl

theorem unnoticed_afterCommand : world.Unnoticed (manager.afterCommand runner world arguments) :=
  ⟨rfl, rfl, rfl⟩

end Command

end SessionManager

/-- How far a request has come: what it is about to do. -/
inductive Stage
  /-- Draw a name for a session that is to be created. -/
  | naming (directory : String)
  /-- Create a session. -/
  | creating (session directory : String)
  /-- Turn on reporting of the mouse. -/
  | settingMouse (session directory : String)
  /-- Turn off the alternate screen. -/
  | settingScreen (session directory : String)
  /-- Make the entry of a session that was created. -/
  | entering (session directory : String)
  /-- Publish that a session was created. -/
  | announcing (session directory : String)
  /-- Ask whether there is the session of an update. -/
  | checking (update : StatusUpdate)
  /-- Store an update. -/
  | applying (update : StatusUpdate)
  /-- Publish an update that was stored. -/
  | telling (report : StatusEvent)
  /-- End a session. -/
  | killing (session : String)
  /-- Remove the entry of a session. -/
  | removing (session : String)
  /-- Publish that a session has ended. -/
  | announcingEnd (session : String)
  /-- Nothing more. -/
  | finished

namespace Stage

variable (manager : SessionManager) {Runner : Type}

/-- The action of a stage. -/
def action? : Stage → Option Action
  | .naming _ => some .drawWord
  | .creating session directory =>
      some (.command (manager.call (SessionManager.creation session directory)))
  | .settingMouse session _ => some (.command (manager.call (SessionManager.mouseOption session)))
  | .settingScreen session _ =>
      some (.command (manager.call (SessionManager.screenOption session)))
  | .entering session directory => some (.init session directory)
  | .announcing session directory => some (.publish (.sessionCreated session directory))
  | .checking update =>
      some (.command (manager.call (SessionManager.checkArguments update.sessionId)))
  | .applying update => some (.applyUpdate update)
  | .telling report => some (.publish (.status report))
  | .killing session => some (.command (manager.call (SessionManager.killArguments session)))
  | .removing session => some (.remove session)
  | .announcingEnd session => some (.publish (.sessionDestroyed session))
  | .finished => none

/-- The actions that set up a session that was created. -/
def setUpActions (session directory : String) : List Action :=
  [.command (manager.call (SessionManager.mouseOption session)),
    .command (manager.call (SessionManager.screenOption session)), .init session directory,
    .publish (.sessionCreated session directory)]

/-- What is left to do of a creation. -/
def creationJob (session directory : String) : Job Unit :=
  .step (.command (manager.call (SessionManager.creation session directory))) fun answer =>
    .chain (if succeeded answer then setUpActions manager session directory else [])

/-- What is left to do of an update that is to be stored. -/
def updateJob (update : StatusUpdate) : Job Unit :=
  .step (.applyUpdate update) fun report => .chain [.publish (.status report)]

/-- What is left to do of an end when the entry is to be removed. -/
def removalJob (session : String) : Job Unit :=
  .step (.remove session) fun entry =>
    .chain (if entry.isSome then [.publish (.sessionDestroyed session)] else [])

/-- What is left to do at a stage. -/
def job : Stage → Job Unit
  | .naming directory =>
      .step .drawWord fun word =>
        creationJob manager (SessionName.generate manager.settings.sessionPrefix word) directory
  | .creating session directory => creationJob manager session directory
  | .settingMouse session directory => .chain (setUpActions manager session directory)
  | .settingScreen session directory => .chain ((setUpActions manager session directory).drop 1)
  | .entering session directory => .chain ((setUpActions manager session directory).drop 2)
  | .announcing session directory => .chain ((setUpActions manager session directory).drop 3)
  | .checking update =>
      .step (.command (manager.call (SessionManager.checkArguments update.sessionId)))
        fun answer => if succeeded answer then updateJob update else .done ()
  | .applying update => updateJob update
  | .telling report => .chain [.publish (.status report)]
  | .killing session =>
      .step (.command (manager.call (SessionManager.killArguments session))) fun _ =>
        removalJob session
  | .removing session => removalJob session
  | .announcingEnd session => .chain [.publish (.sessionDestroyed session)]
  | .finished => .done ()

/-- The stage with which a request begins. A name that does not follow the rule ends it. -/
def first : ChangeRequest → Stage
  | .create (some name) directory =>
      if SessionName.isValid manager.settings.sessionPrefix name then .creating name directory
      else .finished
  | .create none directory => .naming directory
  | .update change => .checking change
  | .destroy session => .killing session

/-- The stage after a stage, by the answer to its action. -/
def next (runner : CommandRunner Runner) (world : World Runner) : Stage → Stage
  | .naming directory =>
      .creating
        (SessionName.generate manager.settings.sessionPrefix (world.words world.drawn)) directory
  | .creating session directory =>
      if succeeded
          (runner (manager.call (SessionManager.creation session directory)) world.runner).1 then
        .settingMouse session directory
      else .finished
  | .settingMouse session directory => .settingScreen session directory
  | .settingScreen session directory => .entering session directory
  | .entering session directory => .announcing session directory
  | .checking update =>
      if succeeded
          (runner (manager.call (SessionManager.checkArguments update.sessionId)) world.runner).1
      then .applying update
      else .finished
  | .applying update =>
      .telling ⟨update.sessionId, world.registry.updatedEntry update world.now⟩
  | .killing session => .removing session
  | .removing session =>
      if (world.registry.get? session).isSome then .announcingEnd session else .finished
  | .announcing _ _ | .telling _ | .announcingEnd _ | .finished => .finished

/-- The world after the action of a stage. -/
def effect (runner : CommandRunner Runner) (world : World Runner) (stage : Stage) : World Runner :=
  match stage.action? manager with
  | none => world
  | some action => (world.act runner action).2

theorem action?_job (stage : Stage) : (stage.job manager).action? = stage.action? manager := by
  cases stage <;> rfl

theorem isDone_job_iff (stage : Stage) :
    (stage.job manager).isDone = true ↔ stage = .finished := by
  cases stage <;>
    simp [job, creationJob, updateJob, removalJob, setUpActions, Job.chain, Job.isDone]

/-- To advance the job of a stage is to go on to the next stage. -/
theorem advance_job
    (runner : CommandRunner Runner)
    (world : World Runner)
    (stage : Stage) :
    (stage.job manager).advance runner world =
      ((stage.next manager runner world).job manager, stage.effect manager runner world) := by
  cases stage with
  | creating session directory =>
      rw [next]
      split
      · next created =>
        simp only [job, creationJob, Job.advance, World.act, created, if_true]
        rfl
      · next refused =>
        simp only [job, creationJob, Job.advance, World.act, refused]
        rfl
  | checking update =>
      rw [next]
      split
      · next found =>
        simp only [job, Job.advance, World.act, found, if_true]
        rfl
      · next absent =>
        simp only [job, Job.advance, World.act, absent]
        rfl
  | removing session =>
      rw [next]
      split
      · next present =>
        simp only [job, removalJob, Job.advance, World.act, present, if_true]
        rfl
      · next absent =>
        simp only [job, removalJob, Job.advance, World.act, absent]
        rfl
  | _ => rfl

end Stage

/-! ## Requests begin with their first stages -/

namespace SessionManager

variable (manager : SessionManager)

/-- What is made of a name, once there is one. -/
def createNamed (directory : String) : Except SessionError String → Job (Except SessionError String)
  | .error failure => pure (.error failure)
  | .ok session => do
    match ← manager.command (creation session directory) with
    | .error failure => pure (.error (.command failure))
    | .ok output =>
      if output.isSuccess then manager.setUp session directory
      else pure (.error (.creationFailed (Text.trim output.stderr)))

theorem createNamed_eq_job
    (session directory : String) :
    (manager.createNamed directory (.ok session) >>= fun _ => pure ()) =
      Stage.creationJob manager session directory := by
  refine congrArg (Job.step _) (funext fun answer => ?_)
  cases answer with
  | error failure => rfl
  | ok output =>
      change ((if output.isSuccess then manager.setUp session directory
        else pure (.error (.creationFailed (Text.trim output.stderr)))).bind fun _ => .done ()) =
          Job.chain (if output.isSuccess then Stage.setUpActions manager session directory else [])
      split <;> rfl

/-- What is made of the answer whether there is the session of an update. -/
def afterCheck (update : StatusUpdate) :
    Except SessionError Bool → Job (Except SessionError StatusEvent)
  | .error failure => pure (.error failure)
  | .ok false => pure (.error (.notFound update.sessionId))
  | .ok true => do
    let event ← Job.perform (.applyUpdate update)
    let _ ← Job.perform (.publish (.status event))
    pure (.ok event)

/-- What is done of a request is the job of its first stage. -/
theorem perform_operation (request : ChangeRequest) :
    manager.perform request.operation = (Stage.first manager request).job manager := by
  cases request with
  | create given directory =>
      have create_eq : manager.create given directory =
          (manager.newName given).bind (manager.createNamed directory) := rfl
      change (manager.create given directory).bind (fun _ => .done ()) = _
      rw [create_eq]
      cases given with
      | some name =>
          rw [Stage.first]
          change (manager.createNamed directory (if _ then _ else _)).bind (fun _ => .done ()) = _
          split
          · exact manager.createNamed_eq_job name directory
          · rfl
      | none =>
          refine congrArg (Job.step _) (funext fun word => ?_)
          exact manager.createNamed_eq_job _ directory
  | update change =>
      refine congrArg (Job.step _) (funext fun answer => ?_)
      cases answer with
      | error failure => rfl
      | ok output =>
          have answered : ((afterCheck change (.ok output.isSuccess)).bind fun _ => .done ()) =
              if output.isSuccess then Stage.updateJob change else .done () := by
            cases output.isSuccess <;> rfl
          exact answered
  | destroy session =>
      refine congrArg (Job.step _) (funext fun _ => congrArg (Job.step _) (funext fun entry => ?_))
      cases entry <;> rfl

end SessionManager
end SessionHub
