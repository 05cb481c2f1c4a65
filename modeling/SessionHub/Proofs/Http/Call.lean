import SessionHub.Http.Server
import SessionHub.Proofs.Session.Failure

/-!
# Calls

What a request may ask for: a call of the session manager or of the broadcaster. The jobs
of the server make these calls and reply with what comes of them; a call that fails is not
noticed by anybody.
-/

namespace SessionHub
namespace Http

/-! ## Calls -/

/-- What a request asks for. -/
inductive Call
  | list
  | create (wanted : CreateRequest)
  | get (session : String)
  | destroy (session : String)
  | updateStatus (update : StatusUpdate)
  | notify (scope : String) (payload : Json.Value)

/-- The body of a request, if it is announced as JSON and not too long. -/
def Request.document? (request : Request) : Option Json.Document :=
  if Server.bodyLimit < request.body.length then none else Server.document? request

namespace Call

variable {Runner : Type}

/-- Make a call: what comes of it in JSON, and the world afterwards. A session is created
in the fallback directory if none is wanted. -/
def perform (manager : SessionManager) (runner : CommandRunner Runner) (world : World Runner) :
    Call → Except SessionError Json.Value × World Runner
  | .list =>
    let (result, after) := manager.list.run runner world
    (result.map fun summaries => .array (summaries.map (·.toJson)), after)
  | .create wanted =>
    let directory := wanted.workingDirectory.getD world.registry.fallback
    let (result, after) := (manager.create wanted.sessionId directory).run runner world
    (result.map fun session => .object [("sessionId", .string session)], after)
  | .get session =>
    let (result, after) := (manager.get session).run runner world
    (result.map (·.toJson), after)
  | .destroy session =>
    let (_, after) := (manager.destroy session).run runner world
    (.ok (.object [("ok", .bool true)]), after)
  | .updateStatus update =>
    let (result, after) := (manager.updateStatus update).run runner world
    (result.map (·.toJson), after)
  | .notify scope payload =>
    let (count, hub) := world.hub.notify scope payload
    (.ok (.object [("delivered", .nat count)]), { world with hub })

/-- The status code of a failure. -/
def statusOf (failure : SessionError) : Nat :=
  match failure with
  | .notFound _ => 404
  | .creationFailed _ => 502
  | .invalidId _ => 400
  | .spawnFailed _ | .streamFailed _ | .command _ => if failure.isTimeout then 504 else 500

/-- The response that tells what came of a call. -/
def reply : Except SessionError Json.Value → Response
  | .ok value => { status := 200, content := .json value }
  | .error failure =>
    { status := statusOf failure
      content := .json (.object
        [("error", .string (ApiError.session failure).code.2),
          ("message", .string failure.message)]) }

end Call

namespace Server

variable {server : Server} {Runner : Type}

/-! ## Jobs of calls -/

end Server
end Http
end SessionHub
