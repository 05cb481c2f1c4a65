import SessionHub.Session.Error
import SessionHub.Session.Listing
import SessionHub.Session.Name
import SessionHub.Session.Summary
import SessionHub.Session.Job
import SessionHub.Settings

/-!
# The session manager

The jobs that create, list, look up, destroy and report on sessions. Which sessions
there are is always asked of the multiplexer; only their status is kept here.
-/

namespace SessionHub

/-- Manages sessions by the commands of a multiplexer. -/
structure SessionManager where
  settings : TmuxSettings
deriving DecidableEq, Repr

namespace SessionManager

variable (manager : SessionManager)

/-- Program and arguments of a command. -/
def argv (arguments : List String) : List String :=
  manager.settings.binary ::
    (match manager.settings.socketName with
      | none => []
      | some socket => ["-L", socket]) ++ arguments

/-- Run a command of the multiplexer. -/
def command (arguments : List String) : Job CommandResult :=
  Job.perform (.command ⟨manager.argv arguments, manager.settings.commandLimit.toNat⟩)

/-- The name of a new session: the given one if it follows the naming rule, or a random
one. -/
def newName : Option String → Job (Except SessionError String)
  | some name =>
    .done <|
      if SessionName.isValid manager.settings.sessionPrefix name then .ok name
      else .error (.invalidId name)
  | none =>
    .step .drawWord fun word =>
      .done (.ok (SessionName.generate manager.settings.sessionPrefix word))

/-- The arguments that create a session. -/
def creation (session directory : String) : List String :=
  ["new-session", "-d", "-s", session, "-c", directory]

/-- The arguments that turn on reporting of the mouse. -/
def mouseOption (session : String) : List String :=
  ["set-option", "-t", SessionName.optionTarget session, "mouse", "on"]

/-- The arguments that turn off the alternate screen, so that a client's own history
holds all that was shown. -/
def screenOption (session : String) : List String :=
  ["set-window-option", "-t", SessionName.optionTarget session, "alternate-screen", "off"]

/-- Set up a session that has just been created. Options that cannot be set do not
matter. -/
def setUp (session directory : String) : Job (Except SessionError String) := do
  let _ ← manager.command (mouseOption session)
  let _ ← manager.command (screenOption session)
  Job.perform (.init session directory)
  let _ ← Job.perform (.publish (.sessionCreated session directory))
  pure (.ok session)

/-- Create a session. The result is its name. -/
def create (given : Option String) (directory : String) :
    Job (Except SessionError String) := do
  match ← manager.newName given with
  | .error failure => pure (.error failure)
  | .ok session =>
    match ← manager.command (creation session directory) with
    | .error failure => pure (.error (.command failure))
    | .ok output =>
      if output.isSuccess then manager.setUp session directory
      else pure (.error (.creationFailed (Text.trim output.stderr)))

/-- The summary of a listed session that has a status entry. -/
def knownSummary (row : Listing.Row) (entry : StatusEntry) : SessionSummary where
  sessionId := row.name
  workingDirectory := entry.workingDirectory
  status := entry.status
  since := entry.since
  createdAt := row.created

/-- The summary of a listed session that has no status entry: idle since its creation. -/
def unknownSummary (row : Listing.Row) (fallback : String) : SessionSummary where
  sessionId := row.name
  workingDirectory := fallback
  status := .idle
  since := (row.created.map (· * 1000)).getD 0
  createdAt := row.created

/-- The summary of a listed session. -/
def summarize (row : Listing.Row) : Job SessionSummary := do
  match ← Job.perform (.lookup row.name) with
  | some entry => pure (knownSummary row entry)
  | none => pure (unknownSummary row (← Job.perform .fallbackDirectory))

/-- The summaries of listed sessions, in order. -/
def summarizeAll : List Listing.Row → Job (List SessionSummary)
  | [] => pure []
  | row :: rest => do
    let summary ← summarize row
    let others ← summarizeAll rest
    pure (summary :: others)

/-- The sessions there are. If the multiplexer refuses, it is not running and there are
none. -/
def list : Job (Except SessionError (List SessionSummary)) := do
  match ← manager.command ["list-sessions", "-F", Listing.format] with
  | .error failure => pure (.error (.command failure))
  | .ok output =>
    if output.isSuccess then
      let summaries ←
        summarizeAll (Listing.rows manager.settings.sessionPrefix output.stdout)
      pure (.ok summaries)
    else pure (.ok [])

/-- The first summary of a session among several. -/
def pick (session : String) (summaries : List SessionSummary) :
    Except SessionError SessionSummary :=
  match summaries.find? (·.sessionId = session) with
  | some summary => .ok summary
  | none => .error (.notFound session)

/-- The summary of one session. -/
def get (session : String) : Job (Except SessionError SessionSummary) := do
  let summaries ← manager.list
  pure (summaries.bind (pick session))

/-- Whether there is a session of a name. -/
def hasSession (session : String) : Job (Except SessionError Bool) := do
  match ← manager.command ["has-session", "-t", SessionName.exactTarget session] with
  | .error failure => pure (.error (.command failure))
  | .ok output => pure (.ok output.isSuccess)

/-- Destroy a session. Whatever comes of the command, its status entry is removed, and
its end is published if there was an entry. -/
def destroy (session : String) : Job Unit := do
  let _ ← manager.command ["kill-session", "-t", SessionName.exactTarget session]
  match ← Job.perform (.remove session) with
  | none => pure ()
  | some _ =>
    let _ ← Job.perform (.publish (.sessionDestroyed session))
    pure ()

/-- Store a status update and publish it, if there is such a session. -/
def updateStatus (update : StatusUpdate) : Job (Except SessionError StatusEvent) := do
  match ← manager.hasSession update.sessionId with
  | .error failure => pure (.error failure)
  | .ok false => pure (.error (.notFound update.sessionId))
  | .ok true =>
    let event ← Job.perform (.applyUpdate update)
    let _ ← Job.perform (.publish (.status event))
    pure (.ok event)

/-- Program and arguments that attach a terminal to a session. -/
def attachArgv (session : String) : List String :=
  manager.argv ["attach-session", "-t", SessionName.exactTarget session]

end SessionManager
end SessionHub
