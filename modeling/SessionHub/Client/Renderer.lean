import SessionHub.Text.Utf8

/-!
# The renderer

Bytes of the remote terminal are written to the local one. After them the local terminal
may be left in any state, so the renderer remembers whether a reset is due.
-/

namespace SessionHub
namespace Client

/-- What takes the bytes that are written, until they are taken away. If there is a
limit, a write that would exceed it fails and leaves nothing behind. -/
structure Sink where
  limit : Option Nat := none
  pending : List UInt8 := []
deriving DecidableEq, Repr

namespace Sink

/-- Whether a write would be taken. -/
def hasRoom (sink : Sink) (data : List UInt8) : Bool :=
  data.isEmpty ||
    match sink.limit with
    | none => true
    | some limit => sink.pending.length + data.length ≤ limit

/-- Write bytes: the sink after the write, and whether they were taken. -/
def write (sink : Sink) (data : List UInt8) : Bool × Sink :=
  if sink.hasRoom data then (true, { sink with pending := sink.pending ++ data })
  else (false, sink)

/-- The sink after what it holds was taken away. -/
def drained (sink : Sink) : Sink :=
  { sink with pending := [] }

/-- What is reported of a write that fails. -/
def fullMessage : String := "sink full"

end Sink

/-- Whether bytes of the remote terminal were written since the last reset. -/
structure Renderer where
  dirty : Bool := false
deriving DecidableEq, Repr

namespace Renderer

/-- The bytes of a text. -/
def bytes (text : String) : List UInt8 :=
  Text.Utf8.encode text.toList

/-- What resets the attributes of the terminal and shows the cursor. -/
def resetSequence : List UInt8 :=
  bytes "\x1b[0m\x1b[?25h\r\n"

/-- A notice as it is shown, dimmed and on a line of its own. -/
def noticeBytes (text : String) : List UInt8 :=
  bytes ("\r\n\x1b[2m" ++ text ++ "\x1b[0m\r\n")

/-- Write bytes of the remote terminal. -/
def render (_ : Renderer) (sink : Sink) (data : List UInt8) : Bool × Renderer × Sink :=
  let (taken, sink) := sink.write data
  (taken, ⟨true⟩, sink)

/-- Show a notice. -/
def notice (renderer : Renderer) (sink : Sink) (text : String) : Bool × Renderer × Sink :=
  let (taken, sink) := sink.write (noticeBytes text)
  (taken, renderer, sink)

/-- Reset the terminal if that is due. -/
def dispose (renderer : Renderer) (sink : Sink) : Bool × Renderer × Sink :=
  if renderer.dirty then
    let (taken, sink) := sink.write resetSequence
    (taken, ⟨false⟩, sink)
  else (true, renderer, sink)

end Renderer
end Client
end SessionHub
