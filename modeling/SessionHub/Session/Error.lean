import SessionHub.Command

/-!
# Errors of session management
-/

namespace SessionHub

/-- Why something could not be done with a session. -/
inductive SessionError
  /-- The session was not created, for the reason given. -/
  | creationFailed (reason : String)
  /-- There is no such session. -/
  | notFound (session : String)
  /-- The name does not follow the naming rule. -/
  | invalidId (session : String)
  /-- The program of a terminal could not be started. -/
  | spawnFailed (reason : String)
  /-- A terminal or a connection failed. -/
  | streamFailed (reason : String)
  /-- A command did not come to its end. -/
  | command (failure : CommandFailure)
deriving DecidableEq, Repr

namespace SessionError

/-- The wording of an error. -/
def message : SessionError → String
  | .creationFailed reason => "session creation failed: " ++ reason
  | .notFound session => "session not found: " ++ session
  | .invalidId session => "invalid session id: " ++ session
  | .spawnFailed reason => "failed to spawn PTY: " ++ reason
  | .streamFailed reason => "stream I/O error: " ++ reason
  | .command failure => failure.message

/-- Whether a command ran out of time. -/
def isTimeout : SessionError → Bool
  | .command (.timedOut _ _) => true
  | .command _ | .creationFailed _ | .notFound _ | .invalidId _ | .spawnFailed _
  | .streamFailed _ => false

end SessionError
end SessionHub
