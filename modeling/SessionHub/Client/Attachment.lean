import SessionHub.Client.Connection
import SessionHub.Client.Renderer

/-!
# The attachment of a terminal

The controller together with what its actions act upon: a place for one connection, the
timers that were armed, and the renderer of the local terminal. A timer delivers its
event once. One that is aborted should not deliver it any more, but may do so if the
abortion comes too late.
-/

namespace SessionHub
namespace Client

/-- A connection, open or being opened. -/
structure Connection where
  generation : Nat
  session : String
  /-- What was handed to it to be sent, in order. -/
  outgoing : List Outgoing := []
deriving DecidableEq, Repr

/-- A timer that has not delivered its event yet. -/
structure Timer where
  generation : Nat
  /-- How many milliseconds it waits. -/
  delay : Nat
  isAborted : Bool := false
deriving DecidableEq, Repr

/-- The controller and what it controls. -/
structure Attachment where
  controller : Controller
  connection : Option Connection := none
  /-- The timers, in the order in which they were armed. -/
  timers : List Timer := []
  renderer : Renderer := {}
  /-- Where the renderer writes. -/
  screen : Sink := {}
deriving DecidableEq, Repr

namespace Attachment

variable (attachment : Attachment)

/-- The attachment with every timer aborted. -/
def abortTimers : Attachment :=
  { attachment with timers := attachment.timers.map ({ · with isAborted := true }) }

/-- Hand something to the connection, if there is one. -/
def send (outgoing : Outgoing) : Attachment :=
  { attachment with
    connection := attachment.connection.map fun connection =>
      { connection with outgoing := connection.outgoing ++ [outgoing] } }

/-- The attachment after the renderer has written, unless the write failed. -/
def written (result : Bool × Renderer × Sink) : Option Attachment :=
  if result.1 then some { attachment with renderer := result.2.1, screen := result.2.2 }
  else none

/-- Carry out an action. `none` means that a write to the terminal failed, which is the
end of the attachment. -/
def execute : Action → Option Attachment
  | .connect session generation =>
    some { attachment with connection := some { generation, session } }
  | .closeConnection => some { attachment with connection := none }
  | .disposeRenderer => attachment.written (attachment.renderer.dispose attachment.screen)
  | .cancelTimer => some attachment.abortTimers
  | .scheduleReconnect generation delay =>
    let aborted := attachment.abortTimers
    some
      { aborted with
        connection := none, timers := aborted.timers ++ [{ generation, delay }] }
  | .sendResize size => some (attachment.send (.resize size))
  | .sendInput data => some (attachment.send (.input data))
  | .render data => attachment.written (attachment.renderer.render attachment.screen data)
  | .notice text => attachment.written (attachment.renderer.notice attachment.screen text)

/-- Carry out actions in turn. -/
def executeAll (attachment : Attachment) : List Action → Option Attachment
  | [] => some attachment
  | action :: rest => (attachment.execute action).bind fun next => next.executeAll rest

/-- Let the controller react to an event, and carry out its actions. -/
def handle (event : Event) : Option Attachment :=
  let (actions, controller) := attachment.controller.handle event
  { attachment with controller }.executeAll actions

/-- What happens to an attachment. -/
inductive Move
  /-- An event that is not a timer's. -/
  | event (event : Event)
  /-- A timer delivers its event. -/
  | fire (index : Nat)
  /-- An aborted timer goes away. -/
  | lapse (index : Nat)
deriving DecidableEq, Repr

/-- Whether an event comes from a timer. -/
def isTimerEvent : Event → Bool
  | .timerFired _ => true
  | _ => false

/-- The attachment after a timer has delivered its event. -/
def fire (index : Nat) : Option Attachment :=
  match attachment.timers[index]? with
  | none => some attachment
  | some timer =>
    { attachment with timers := attachment.timers.eraseIdx index }.handle
      (.timerFired timer.generation)

/-- The attachment after an aborted timer has gone away. -/
def lapse (index : Nat) : Attachment :=
  match attachment.timers[index]? with
  | none => attachment
  | some timer =>
    if timer.isAborted then
      { attachment with timers := attachment.timers.eraseIdx index }
    else attachment

/-- The attachment after a move. -/
def step : Move → Option Attachment
  | .event event => if isTimerEvent event then some attachment else attachment.handle event
  | .fire index => attachment.fire index
  | .lapse index => some (attachment.lapse index)

/-- The attachment after several moves. -/
def run (attachment : Attachment) : List Move → Option Attachment
  | [] => some attachment
  | move :: rest => (attachment.step move).bind fun next => next.run rest

/-- The attachment before anything has happened. -/
def start (backoff : Backoff) (viewport : Terminal.WindowSize) : Attachment where
  controller := .start backoff viewport

/-! ## Without a server -/

/-- Let several events happen, until one of them leads to the end. -/
def handleAll (attachment : Attachment) : List Event → Option Attachment
  | [] => some attachment
  | event :: rest => (attachment.handle event).bind fun next => next.handleAll rest

/-- The connection cannot be opened, if one is being opened. -/
def refuse : Option Attachment :=
  match attachment.connection with
  | none => some attachment
  | some connection => attachment.handle (.connectFailed connection.generation)

/-- How long it takes until the next attempt to connect, if one is due. -/
def nextDelay : Option Nat :=
  (attachment.timers.find? (¬·.isAborted)).map (·.delay)

/-- The next attempt to connect, which fails again. -/
def retry : Option Attachment :=
  match attachment.timers.findIdx? (¬·.isAborted) with
  | none => some attachment
  | some index => (attachment.fire index).bind refuse

/-- How many characters have been shown. -/
def shown : Nat :=
  (Text.Utf8.lossy attachment.screen.pending).length

/-- Attempt to connect again and again until so many characters have been shown, for at
most so many milliseconds. Every attempt takes at least one. -/
def waitShown (attachment : Attachment) (characters patience : Nat) : Option Attachment :=
  if characters ≤ attachment.shown then some attachment
  else
    match attachment.nextDelay with
    | none => none
    | some delay =>
      if delay < patience then
        attachment.retry.bind fun next => next.waitShown characters (patience - (delay + 1))
      else none
termination_by patience

end Attachment
end Client
end SessionHub
