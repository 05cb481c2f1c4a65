import SessionHub.Cli.Command
import SessionHub.Cli.Layout
import SessionHub.Client.Api
import SessionHub.Http.Token
import SessionHub.Settings.File

/-!
# Errands

What a command line makes the program do, as far as it depends on the settings alone: an
outcome, a request to the server whose response decides how to go on, or one of the
activities that take over the program.
-/

namespace SessionHub
namespace Cli

open Client (ApiClient ApiFailure)

/-- What a command leaves: the lines it printed, and why it failed if it did. -/
structure Outcome where
  lines : List String := []
  failure : Option String := none
deriving DecidableEq, Repr

/-- What is still to be done for a command. -/
inductive Errand
  /-- Nothing. -/
  | finished (outcome : Outcome)
  /-- Send a request, and go on with the response. -/
  | exchange (request : Http.Request) (next : Option Http.Response → Errand)
  /-- Print lines, and attach the terminal to a session. -/
  | attach (printed : List String) (client : ApiClient) (session : String)
  /-- Print what an event feed brings. -/
  | follow (url : Url)
  /-- Print lines, and run the server. -/
  | serve (printed : List String) (settings : Settings) (token : String)

namespace Errand

/-- A failure before anything was printed. -/
def failed (reason : String) : Errand :=
  .finished { failure := some reason }

/-- Lines that are printed at the end of a command. -/
def printed (lines : List String) : Errand :=
  .finished { lines }

/-- Go on with a result, or fail. -/
def orFail (result : Except ApiFailure α) (next : α → Errand) : Errand :=
  match result with
  | .error failure => failed failure.message
  | .ok value => next value

/-- Send a request to the server and go on with what is read of the response. -/
def ask (client : Except ApiFailure ApiClient) (method path : String)
    (body : Option Json.Value) (read : Json.Value → Option α)
    (next : ApiClient → α → Errand) : Errand :=
  orFail client fun client =>
    orFail (client.request method path body) fun request =>
      .exchange request fun response => orFail (client.receive read response) (next client)

/-! ## Commands -/

/-- The lines that list sessions. -/
def listing (json : Bool) (now : Nat) (summaries : List SessionSummary) : List String :=
  if json then [(Json.Value.array (summaries.map (·.toJson))).renderIndented]
  else (table now summaries).map String.ofList

/-- The address that a server tells, with its token. -/
def localAddress (settings : ServerSettings) (token : String) : String :=
  "  Local:   " ++ ApiClient.addressOf settings ++ "?token=" ++ token

/-- Run a server. Host, port and token that are given win over the settings; without any
token a fresh one is taken. -/
def startServer (settings : Settings) (host : Option String) (port : Option UInt16)
    (token : Option String) (freshToken : String) : Errand :=
  let server :=
    { settings.server with
      host := host.getD settings.server.host
      port := port.getD settings.server.port }
  let token := (token.or settings.server.token).getD freshToken
  .serve ["", localAddress server token, ""] { settings with server } token

/-- What a number of connections is told as. -/
def deliveredLine (count : Nat) : String :=
  "Delivered to " ++ String.ofList (Text.natDigits count) ++ " connection(s)"

/-- What is reported of a payload that is no JSON. -/
def badPayloadMessage : String := "Payload must be valid JSON"

/-- What a command line makes the program do. `now` is the time in seconds. Whether there
is a client is asked when the command comes to need it. -/
def ofInvocation (settings : Settings) (invocation : Invocation) (freshToken : String)
    (now : Nat) : Errand :=
  let client := ApiClient.ofSettings settings.server invocation.server invocation.token
  match invocation.command with
  | .serve host port => startServer settings host port invocation.token freshToken
  | .list json =>
    ask client "GET" ApiClient.sessionsPath none ApiClient.readSessions
      fun _ summaries => printed (listing json now summaries)
  | .new directory name isAttached =>
    ask client "POST" ApiClient.sessionsPath (some (CreateRequest.toJson ⟨directory, name⟩))
      ApiClient.readCreated fun client session =>
        if isAttached then .attach [session] client session else printed [session]
  | .kill session =>
    ask client "DELETE" (ApiClient.sessionPath session) none some
      fun _ _ => printed ["Session '" ++ session ++ "' killed"]
  | .status session status eventId title exitCode =>
    let update : StatusUpdate := ⟨session, status, eventId, title, exitCode⟩
    ask client "POST" ApiClient.statusPath (some update.toJson)
      (ApiClient.readText StatusEvent.read) fun _ event => printed [event.toJson.render]
  | .notify scope payload =>
    match Json.Value.parse? payload with
    | none => failed badPayloadMessage
    | some value =>
      ask client "POST" (ApiClient.notifyPath scope) (some value.canonical)
        ApiClient.readDelivered fun _ count => printed [deliveredLine count]
  | .attach session => orFail client fun client => .attach [] client session
  | .events subject =>
    orFail client fun client => orFail (client.feedUrl subject) .follow

/-! ## Without a network -/

/-- What is reported of a terminal that cannot be attached. -/
def noTerminalMessage : String := "Failed to get terminal attributes (not a terminal?)"

/-- What is reported of a feed that cannot be opened. -/
def noFeedMessage : String := "Failed to connect to event feed"

/-- What is reported of a server whose port cannot be had. -/
def noPortMessage (settings : ServerSettings) : String :=
  "Failed to bind " ++ settings.host ++ ":" ++
    String.ofList (Text.natDigits settings.port.toNat)

/-- The outcome where no server can be reached, no port is free, and the input is not a
terminal. -/
def offline : Errand → Outcome
  | .finished outcome => outcome
  | .exchange _ next => (next none).offline
  | .attach lines _ _ => { lines, failure := some noTerminalMessage }
  | .follow _ => { failure := some noFeedMessage }
  | .serve lines settings _ => { lines, failure := some (noPortMessage settings.server) }

end Errand

/-- What is reported where there is no place for settings. -/
def noSettingsPathMessage : String := "Could not determine config directory"

/-- What is reported of settings that cannot be had. -/
def settingsMessage (path : String) : Settings.LoadError → String
  | .unreadable => "Failed to read " ++ path
  | .invalid => "Failed to parse " ++ path

end Cli
end SessionHub
