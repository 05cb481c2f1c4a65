import SessionHub.Event
import SessionHub.Http.Message
import SessionHub.Session.Summary
import SessionHub.Settings
import SessionHub.Url.Reference

/-!
# The client's view of a server

The URLs under which a client finds what it looks for on a server, the requests it sends,
and how it reads the responses.
-/

namespace SessionHub
namespace Client

/-- A server, as a client knows it. -/
structure ApiClient where
  base : Url
  token : String
deriving DecidableEq, Repr

/-- Why a client does not come to what it wants. -/
inductive ApiFailure
  /-- There is no token. -/
  | noToken
  /-- The address of the server is no URL. -/
  | invalidServer (address : String)
  /-- The address of the server has no path that a reference could be relative to. -/
  | noPath
  /-- The address of the server does not lead to web sockets. -/
  | noSockets (base : Url)
  /-- The server cannot be reached. -/
  | unreachable (base : Url)
  /-- The server answered with an error. -/
  | refused (status : Nat) (reason : Option String)
  /-- The answer of the server is not what it should be. -/
  | undecodable
deriving DecidableEq, Repr

namespace ApiFailure

/-- A URL as a string. -/
def address (url : Url) : String :=
  String.ofList url.text

/-- The wording of a failure. -/
def message : ApiFailure → String
  | .noToken => "No token: pass --token or set server.token in the settings file"
  | .invalidServer address => "Invalid server URL: " ++ address
  | .noPath => "relative URL with a cannot-be-a-base base"
  | .noSockets base => "Cannot derive a WebSocket URL from " ++ address base
  | .unreachable base => "Failed to reach " ++ address base
  | .refused status reason =>
    "Server returned " ++ Http.statusLine status ++ ": " ++ reason.getD "no details"
  | .undecodable => "error decoding response body"

end ApiFailure

namespace ApiClient

/-- The client of the server at an address. -/
def ofAddress? (address token : String) : Except ApiFailure ApiClient :=
  match Url.parse? address.toList with
  | none => .error (.invalidServer address)
  | some base => .ok ⟨base, token⟩

/-- The address of a server with given settings. -/
def addressOf (settings : ServerSettings) : String :=
  "http://" ++ settings.host ++ ":" ++
    String.ofList (Text.natDigits settings.port.toNat)

/-- The client for given settings, unless another address or token is given. A missing
token is found out first. -/
def ofSettings (settings : ServerSettings) (address token : Option String) :
    Except ApiFailure ApiClient :=
  match token.or settings.token with
  | none => .error .noToken
  | some token => ofAddress? (address.getD (addressOf settings)) token

variable (client : ApiClient)

/-! ## URLs -/

/-- The URL of a path on the server, with the token. -/
def url (path : String) : Except ApiFailure Url :=
  match client.base.join? path.toList with
  | none => .error .noPath
  | some url => .ok (url.addPair "token" client.token)

/-- The scheme of web sockets that corresponds to a scheme. -/
def socketScheme (scheme : List Char) : List Char :=
  if scheme = "https".toList then "wss".toList else "ws".toList

/-- The URL of a web socket at a path on the server, with the token. -/
def socketUrl (path : String) : Except ApiFailure Url := do
  let url ← client.url path
  match url.withSpecialScheme? (socketScheme url.scheme) with
  | none => throw (.noSockets client.base)
  | some url => pure url

/-- The path of the list of sessions. -/
def sessionsPath : String := "/api/sessions"

/-- The path of a session. -/
def sessionPath (session : String) : String :=
  sessionsPath ++ "/" ++ session

/-- The path that takes status updates. -/
def statusPath : String := "/api/status"

/-- The path that takes what is sent to a scope. -/
def notifyPath (scope : String) : String :=
  "/api/scopes/" ++ scope ++ "/notify"

/-- The path of the terminal of a session. -/
def terminalPath (session : String) : String :=
  "/ws/terminal/" ++ session

/-- The path of the event feed. -/
def eventsPath : String := "/ws/events"

/-- The URL of the terminal of a session. -/
def terminalUrl (session : String) : Except ApiFailure Url :=
  client.socketUrl (terminalPath session)

/-- The URL of the event feed, for a subject if there is one. -/
def feedUrl (subject : Option String) : Except ApiFailure Url := do
  let url ← client.socketUrl eventsPath
  match subject with
  | none => pure url
  | some subject => pure (url.addPair "subject" subject)

/-! ## Requests and responses -/

/-- The request for a URL. -/
def requestFor (method : String) (body : Option Json.Value) (url : Url) : Http.Request where
  method := method
  target := String.ofList (url.pathChars ++ Url.marked '?' url.query)
  headers := if body.isSome then [("content-type", "application/json")] else []
  body := match body with
    | none => []
    | some value => Text.Utf8.encode value.renderChars

/-- The request for a path, with a body if there is one. -/
def request (method path : String) (body : Option Json.Value) :
    Except ApiFailure Http.Request :=
  (client.url path).map (requestFor method body)

/-- The reason that an error response gives. -/
def reasonOf (response : Http.Response) : Option String :=
  response.json?.bind fun value => (value.get? "message").bind Json.Value.string?

/-- Read a response, or find that there is none. -/
def receive (read : Json.Value → Option α) :
    Option Http.Response → Except ApiFailure α
  | none => .error (.unreachable client.base)
  | some response =>
    if 200 ≤ response.status ∧ response.status < 300 then
      match response.json?.bind read with
      | none => .error .undecodable
      | some value => .ok value
    else .error (.refused response.status (reasonOf response))

/-- Read a value by what reads its text. -/
def readText (read : Json.Document → Except Json.Fault α) (value : Json.Value) : Option α :=
  (read (Json.Document.ofText value.renderChars)).toOption

/-- Read the list of sessions. -/
def readSessions : Json.Value → Option (List SessionSummary)
  | .array items => items.mapM (readText SessionSummary.read)
  | _ => none

/-- Read the name of a session that was created. -/
def readCreated (value : Json.Value) : Option String :=
  (value.get? "sessionId").bind Json.Value.string?

/-- Read how many connections have taken a payload. -/
def readDelivered (value : Json.Value) : Option Nat :=
  (value.get? "delivered").bind Json.Value.uint64? |>.map UInt64.toNat

end ApiClient
end Client
end SessionHub
