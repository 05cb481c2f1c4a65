import SessionHub.Terminal.Resize
import SessionHub.Text.Utf8

/-!
# Frames of a terminal connection

Messages of a web socket are mapped to frames, and the frames of a client to input for
the terminal: either a new size, or bytes that are typed in.
-/

namespace SessionHub
namespace Terminal

/-- A message of a web socket. A closing message may carry a code and a reason. -/
inductive SocketMessage
  | text (text : String)
  | binary (data : List UInt8)
  | ping (data : List UInt8)
  | pong (data : List UInt8)
  | close (frame : Option (UInt16 × String))
deriving DecidableEq, Repr

/-- What the client sends. -/
inductive InboundFrame
  | text (text : String)
  | binary (data : List UInt8)
  | close
deriving DecidableEq, Repr

/-- What the client is sent. -/
inductive OutboundFrame
  | text (text : String)
  | close (code : UInt16) (reason : String)
deriving DecidableEq, Repr

/-- What is done with a frame: the window is resized, or bytes are typed in. -/
inductive Input
  | resize (size : WindowSize)
  | data (bytes : List UInt8)
deriving DecidableEq, Repr

namespace InboundFrame

/-- The frame of a message that was received, if it concerns the terminal. A failure to
receive closes the connection. -/
def ofReceived? : Option SocketMessage → Option InboundFrame
  | some (.text content) => some (.text content)
  | some (.binary data) => some (.binary data)
  | some (.close _) => some .close
  | some (.ping _) | some (.pong _) => none
  | none => some .close

/-- What a frame means for the terminal, and how it was read. `none` closes the
connection. A text that is no resize message is typed in as it is. -/
def interpret? : InboundFrame → Option (Input × ResizeReading)
  | .close => none
  | .binary data => some (.data data, .notControl)
  | .text content =>
    let reading := ResizeReading.ofText content
    match reading with
    | .resize size => some (.resize size, reading)
    | .notControl | .malformed => some (.data (Text.Utf8.encode content.toList), reading)

end InboundFrame

/-- The message that carries a frame to the client. -/
def OutboundFrame.toMessage : OutboundFrame → SocketMessage
  | .text content => .text content
  | .close code reason => .close (some (code, reason))

end Terminal
end SessionHub
