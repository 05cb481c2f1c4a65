import SessionHub.Http.MediaType
import SessionHub.Http.Message
import SessionHub.Http.Route
import SessionHub.Session.Manager

/-!
# The server

The job that answers a request. The parts of a request are read before the token is
looked at: first the path and the query, and where a JSON body is required, its media
type and its text. A body is read only if it is not too long. Until the token has been
accepted no action is performed.
-/

namespace SessionHub
namespace Http

/-- A server: the manager of its sessions, and the token that its clients must know. -/
structure Server where
  manager : SessionManager
  token : String
deriving DecidableEq, Repr

/-- Why a request with a well-formed path, query and body is not answered as wished. -/
inductive ApiError
  /-- The token is missing or wrong. -/
  | forbidden
  /-- The body of a request is not what it should be. -/
  | badRequest (reason : String)
  /-- The session manager could not do what was asked. -/
  | session (failure : SessionError)
deriving DecidableEq, Repr

namespace ApiError

/-- Status code and name of an error. -/
def code : ApiError → Nat × String
  | .forbidden => (403, "forbidden")
  | .badRequest _ => (400, "bad_request")
  | .session (.notFound _) => (404, "session_not_found")
  | .session (.creationFailed _) => (502, "session_creation_failed")
  | .session (.invalidId _) => (400, "invalid_session_id")
  | .session (.command (.timedOut _ _)) => (504, "timeout")
  | .session (.command _) | .session (.spawnFailed _) | .session (.streamFailed _) =>
    (500, "internal")

/-- The wording of an error. -/
def message : ApiError → String
  | .forbidden => "invalid token"
  | .badRequest reason => reason
  | .session failure => failure.message

/-- The response that tells of an error. -/
def response (error : ApiError) : Response where
  status := error.code.1
  content := .json (.object
    [("error", .string error.code.2), ("message", .string error.message)])

end ApiError

/-- Why a request is refused before its token is looked at. -/
inductive Rejection
  /-- A name in the path is no text. -/
  | path
  /-- A parameter of the query is given twice. -/
  | query
  /-- The body is not announced as JSON. -/
  | mediaType
  /-- The body is longer than is read. -/
  | tooLong
  /-- The body is not JSON, or JSON of another shape. -/
  | body (fault : Json.Fault)
  /-- The connection was not asked to become a web socket. -/
  | upgrade
  /-- A web socket was asked for with another method than `GET`. -/
  | upgradeMethod
deriving DecidableEq, Repr

namespace Rejection

/-- Status code and wording of a rejection. -/
def code : Rejection → Nat × String
  | .path => (400, "Invalid name in the path")
  | .query => (400, "Invalid query")
  | .mediaType => (415, "The body must be announced as application/json")
  | .tooLong => (413, "The body is too long")
  | .body .notJson => (400, "The body is not JSON")
  | .body .shape => (422, "The body is JSON of another shape")
  | .upgrade => (400, "A web socket was expected")
  | .upgradeMethod => (405, "A web socket must be asked for with GET")

/-- The response that tells of a rejection. -/
def response (rejection : Rejection) : Response :=
  .plain rejection.code.1 rejection.code.2

end Rejection

namespace Server

variable (server : Server)

/-- Whether a token is the right one. -/
def accepts (token : Option String) : Bool :=
  token = some server.token

/-- The response for the result of a job. -/
def answer (encode : α → Json.Value) : Except SessionError α → Response
  | .ok value => .ok (encode value)
  | .error failure => (ApiError.session failure).response

/-- A job that is done only for the right token. -/
def authorized (token : Option String) (job : Job Response) : Job Response :=
  if server.accepts token then job else pure ApiError.forbidden.response

/-- The body of a request as a JSON text, if it is announced as one. -/
def document? (request : Request) : Option Json.Document :=
  if ((request.header? "content-type").map MediaType.isJson).getD false then
    some (.ofBytes request.body)
  else none

/-- The value of a JSON text, in canonical form. -/
def readPayload (document : Json.Document) : Except Json.Fault Json.Value :=
  match document.toValue? with
  | some value => .ok value.canonical
  | none => .error .notJson

/-- The greatest number of bytes that are read of a body. -/
def bodyLimit : Nat := 2097152

/-- Read the JSON body of a request. -/
def readBody (read : Json.Document → Except Json.Fault α) (request : Request) :
    Except Rejection α :=
  match document? request with
  | none => .error .mediaType
  | some document =>
    if bodyLimit < request.body.length then .error .tooLong
    else (read document).mapError .body

/-- The sessions there are. -/
def listSessions : Job Response := do
  let result ← server.manager.list
  pure (answer (fun summaries => .array (summaries.map (·.toJson))) result)

/-- What a request asks to create. An empty body leaves everything open. -/
def creationRequest (body : List UInt8) : Except Json.Fault CreateRequest :=
  if body.isEmpty then .ok {} else CreateRequest.read (.ofBytes body)

/-- What is wrong with the body of a request to create a session. -/
def faultReason : Json.Fault → String
  | .notJson => "not JSON"
  | .shape => "JSON of another shape"

/-- Create a session. -/
def createSession (body : List UInt8) : Job Response := do
  match creationRequest body with
  | .error fault => pure (ApiError.badRequest (faultReason fault)).response
  | .ok wanted =>
    let directory ←
      match wanted.workingDirectory with
      | some directory => pure directory
      | none => Job.perform .fallbackDirectory
    let result ← server.manager.create wanted.sessionId directory
    pure (answer (fun session => .object [("sessionId", .string session)]) result)

/-- The summary of one session. -/
def getSession (session : String) : Job Response := do
  let result ← server.manager.get session
  pure (answer (·.toJson) result)

/-- Destroy a session. -/
def destroySession (session : String) : Job Response := do
  server.manager.destroy session
  pure (.ok (.object [("ok", .bool true)]))

/-- Store and publish a status update. -/
def updateStatus (update : StatusUpdate) : Job Response := do
  let result ← server.manager.updateStatus update
  pure (answer (·.toJson) result)

/-- Send a payload to a scope. -/
def notifyScope (scope : String) (payload : Json.Value) : Job Response := do
  let count ← Job.perform (.notify scope payload)
  pure (.ok (.object [("delivered", .nat count)]))

/-- What a request for a web socket comes to if it does not ask for the upgrade. -/
def withoutUpgrade (method : String) : Rejection :=
  if method = "GET" then .upgrade else .upgradeMethod

/-- The job that answers a request whose method its route has, or why it is rejected. -/
def handle (request : Request) (route : Route) : Except Rejection (Job Response) :=
  let token? := parameter? "token" request.pairs
  match route with
  | .health => .ok (pure (.ok (.object [("status", .string "ok")])))
  | .sessions =>
    match token? with
    | none => .error .query
    | some token =>
      if request.method = "POST" then
        if bodyLimit < request.body.length then .error .tooLong
        else .ok (server.authorized token (server.createSession request.body))
      else .ok (server.authorized token server.listSessions)
  | .session name =>
    match token?, Route.decodeName? name with
    | none, _ => .error .query
    | _, none => .error .path
    | some token, some session =>
      .ok <| server.authorized token <|
        if request.method = "DELETE" then server.destroySession session
        else server.getSession session
  | .status =>
    match token? with
    | none => .error .query
    | some token => do
      let update ← readBody StatusUpdate.read request
      pure (server.authorized token (server.updateStatus update))
  | .notify name =>
    match token?, Route.decodeName? name with
    | none, _ => .error .query
    | _, none => .error .path
    | some token, some scope => do
      let payload ← readBody readPayload request
      pure (server.authorized token (notifyScope scope payload))
  | .terminal name =>
    match Route.decodeName? name, token? with
    | none, _ => .error .path
    | _, none => .error .query
    | some _, some _ => .error (withoutUpgrade request.method)
  | .events =>
    match token?, parameter? "subject" request.pairs with
    | some _, some _ => .error (withoutUpgrade request.method)
    | _, _ => .error .query

/-- The job that answers a request. A request for options is answered without looking at
it any further. -/
def respond (request : Request) : Job Response :=
  match Route.ofPath? request.path with
  | none => pure { status := if request.method = "OPTIONS" then 200 else 404 }
  | some route =>
    if request.method ∈ route.methods then do
      let response ←
        match server.handle request route with
        | .ok job => job
        | .error rejection => pure rejection.response
      pure { response with headersOnly := request.method = "HEAD" }
    else
      pure
        { status := if request.method = "OPTIONS" then 200 else 405
          allow := some route.methods }

end Server
end Http
end SessionHub
