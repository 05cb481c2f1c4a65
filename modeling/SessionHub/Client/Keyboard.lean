import SessionHub.Client.Controller

/-!
# The keyboard

What is typed is read in chunks and goes to the controller as it comes, up to the escape
byte or the end of the input. Either of them gives up the attachment.
-/

namespace SessionHub
namespace Client

/-- What a read of the keyboard brings. -/
inductive KeyRead
  | bytes (data : List UInt8)
  /-- The end of the input. -/
  | ended
  | failed
deriving DecidableEq, Repr

/-- The byte of the key combination that detaches: control and the closing bracket. -/
def escapeByte : UInt8 := 0x1D

/-- The event of bytes that were typed: none if there are no bytes. -/
def typedEvents (data : List UInt8) : List Event :=
  if data.isEmpty then [] else [.input data]

/-- The events that reads of the keyboard cause. Reading goes on until the escape byte or
the end; a read without bytes is the end. -/
def keyEvents : List KeyRead → List Event
  | .bytes data :: rest =>
    if data.isEmpty then [.detach]
    else if data.contains escapeByte then
      typedEvents (data.takeWhile (· ≠ escapeByte)) ++ [.detach]
    else .input data :: keyEvents rest
  | .ended :: _ | .failed :: _ => [.detach]
  | [] => []

end Client
end SessionHub
