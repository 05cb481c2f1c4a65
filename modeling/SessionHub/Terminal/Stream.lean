import SessionHub.Terminal.Frame

/-!
# Streaming between a terminal and a connection

Two pumps work side by side. The output pump reads what the terminal puts out, decodes it
and sends it; the input pump takes the frames of the client and types them into the
terminal or resizes it. Each goes through its own moves, in any order with those of the
other, until it comes to an end. The end of one cancels the other, which then stops at
the next occasion, though it may make some moves before it does.
-/

namespace SessionHub
namespace Terminal

/-- Why a connection that was streaming came to its end. -/
inductive EndReason
  /-- The client went away. -/
  | peerClosed
  /-- The program on the terminal came to its end. -/
  | ptyExited
  /-- Reading, writing or sending failed. -/
  | streamError
deriving DecidableEq, Repr

/-- The code of a closing frame after a session has ended. -/
def endedCode : UInt16 := 1000

/-- A move of one of the pumps. -/
inductive Move
  /-- The output pump reads bytes and sends their text. -/
  | output (bytes : List UInt8)
  /-- The output pump reads bytes, and is stopped before their text is sent. -/
  | outputUnsent (bytes : List UInt8)
  /-- The output pump reads bytes, and their text cannot be sent. -/
  | sendFailed (bytes : List UInt8)
  /-- The output pump finds that the program has come to its end. -/
  | outputEnded
  /-- The output pump cannot read. -/
  | readFailed
  /-- The output pump is stopped. -/
  | outputStopped
  /-- The input pump takes a frame, or the end of the client's frames. -/
  | frame (frame : Option InboundFrame)
  /-- The input pump takes a frame, and is stopped when so many of its bytes are typed. -/
  | frameUntyped (frame : InboundFrame) (count : Nat)
  /-- The input pump takes a frame, and its bytes cannot be typed, but for so many. -/
  | typingFailed (frame : InboundFrame) (count : Nat)
  /-- The input pump is stopped. -/
  | inputStopped
deriving DecidableEq, Repr

/-- What the pumps have done so far. A pump that has come to its end has a reason, unless
it was stopped. -/
structure Stream where
  decoder : Text.Utf8.Decoder := {}
  /-- The frames that were sent, in order. -/
  sent : List OutboundFrame := []
  /-- The bytes that were typed into the terminal, in order. -/
  typed : List UInt8 := []
  /-- The size of the terminal. -/
  size : WindowSize
  /-- How the output pump has ended, if it has. -/
  outputEnd : Option (Option EndReason) := none
  /-- How the input pump has ended, if it has. -/
  inputEnd : Option (Option EndReason) := none
deriving DecidableEq, Repr

namespace Stream

variable (stream : Stream)

/-- Whether one of the pumps has ended, so that the other is to stop. -/
def isCancelled : Bool :=
  stream.outputEnd.isSome || stream.inputEnd.isSome

/-- Whether both pumps have ended. -/
def isOver : Bool :=
  stream.outputEnd.isSome && stream.inputEnd.isSome

/-- The frames that carry a text: none if it is empty. -/
def textFrames (text : List Char) : List OutboundFrame :=
  if text.isEmpty then [] else [.text (String.ofList text)]

/-- The output pump decodes bytes and sends their text. -/
def put (bytes : List UInt8) : Stream :=
  let (text, decoder) := stream.decoder.decode bytes
  { stream with decoder, sent := stream.sent ++ textFrames text }

/-- The output pump decodes bytes and ends before their text is sent, if they have any. -/
def cut (bytes : List UInt8) (reason : Option EndReason) : Option Stream :=
  let (text, decoder) := stream.decoder.decode bytes
  if text.isEmpty then none else some { stream with decoder, outputEnd := some reason }

/-- The program has come to its end: the rest of the text and a closing frame are sent. -/
def close : Stream :=
  let (text, decoder) := stream.decoder.finish
  { stream with
    decoder
    sent := stream.sent ++ textFrames text ++ [.close endedCode "session ended"]
    outputEnd := some (some .ptyExited) }

/-- Type bytes into the terminal. -/
def type (bytes : List UInt8) : Stream :=
  { stream with typed := stream.typed ++ bytes }

/-- The input pump takes what the client sends. -/
def take (frame : Option InboundFrame) : Stream :=
  match frame.bind InboundFrame.interpret? with
  | none => { stream with inputEnd := some (some .peerClosed) }
  | some (.resize size, _) => { stream with size }
  | some (.data bytes, _) => stream.type bytes

/-- The input pump takes a frame and ends when some of its bytes, but not all, are typed. -/
def takeUpTo (frame : InboundFrame) (count : Nat) (reason : Option EndReason) :
    Option Stream :=
  match frame.interpret? with
  | some (.data bytes, _) =>
    if count < bytes.length then
      some { stream.type (bytes.take count) with inputEnd := some reason }
    else none
  | _ => none

/-- The stream after a move, if the move can be made. -/
def step : Move → Option Stream
  | .output bytes => if stream.outputEnd.isNone then some (stream.put bytes) else none
  | .outputUnsent bytes =>
    if stream.outputEnd.isNone ∧ stream.isCancelled then stream.cut bytes none else none
  | .sendFailed bytes =>
    if stream.outputEnd.isNone then stream.cut bytes (some .streamError) else none
  | .outputEnded => if stream.outputEnd.isNone then some stream.close else none
  | .readFailed =>
    if stream.outputEnd.isNone then
      some { stream with outputEnd := some (some .streamError) }
    else none
  | .outputStopped =>
    if stream.outputEnd.isNone ∧ stream.isCancelled then
      some { stream with outputEnd := some none }
    else none
  | .frame frame => if stream.inputEnd.isNone then some (stream.take frame) else none
  | .frameUntyped frame count =>
    if stream.inputEnd.isNone ∧ stream.isCancelled then stream.takeUpTo frame count none
    else none
  | .typingFailed frame count =>
    if stream.inputEnd.isNone then stream.takeUpTo frame count (some .streamError) else none
  | .inputStopped =>
    if stream.inputEnd.isNone ∧ stream.isCancelled then
      some { stream with inputEnd := some none }
    else none

/-- The stream after several moves, if they can be made in turn. -/
def run (stream : Stream) : List Move → Option Stream
  | [] => some stream
  | move :: rest => (stream.step move).bind fun next => next.run rest

/-- Why the connection comes to its end when both pumps have. The end of the program
counts before everything else, and then what the input pump found. -/
def reason : EndReason :=
  let output := stream.outputEnd.join
  if output = some .ptyExited then .ptyExited
  else (stream.inputEnd.join.or output).getD .peerClosed

end Stream

/-- The bytes that a move reads from the terminal. -/
def Move.bytesRead : Move → List UInt8
  | .output bytes | .outputUnsent bytes | .sendFailed bytes => bytes
  | _ => []

end Terminal
end SessionHub
