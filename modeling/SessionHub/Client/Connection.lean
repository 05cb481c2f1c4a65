import SessionHub.Client.Controller
import SessionHub.Terminal.Frame

/-!
# The client's end of a terminal connection

What the client sends over an open connection, and what the messages of the server mean
for the controller.
-/

namespace SessionHub
namespace Client

open Terminal (ResizeMessage SocketMessage WindowSize)

/-- What is handed to a connection to be sent. -/
inductive Outgoing
  | resize (size : WindowSize)
  | input (data : List UInt8)
deriving DecidableEq, Repr

/-- The message that carries it. What is typed is binary, so that it is never taken for a
resize message. -/
def Outgoing.message : Outgoing → SocketMessage
  | .resize size => .text (ResizeMessage.ofSize size).text
  | .input data => .binary data

/-- The code of a closing message for a session that does not exist. -/
def rejectedCode : UInt16 := 4404

/-- What comes over a connection. -/
inductive Incoming
  | message (message : SocketMessage)
  /-- Receiving or sending failed. -/
  | failure
  /-- The connection has ended without a closing message. -/
  | ended
deriving DecidableEq, Repr

/-- What it means for the controller, if anything. -/
def Incoming.event? (generation : Nat) : Incoming → Option Event
  | .message (.text text) => some (.output generation (Text.Utf8.encode text.toList))
  | .message (.binary data) => some (.output generation data)
  | .message (.close (some (code, reason))) =>
    some (if code = rejectedCode then .rejected generation reason else .closed generation)
  | .message (.close none) | .failure | .ended => some (.closed generation)
  | .message (.ping _) | .message (.pong _) => none

end Client
end SessionHub
