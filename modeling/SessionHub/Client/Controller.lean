import SessionHub.Client.Backoff
import SessionHub.Terminal.Resize
import SessionHub.Text.Numeral

/-!
# The attachment controller

A state machine that keeps a terminal attached to a session. It does nothing itself: an
event makes it change and return the actions to be carried out. Connections and timers
carry the generation in which they were asked for; what an older generation reports is
ignored.
-/

namespace SessionHub
namespace Client

open Terminal (WindowSize)

/-- How far the attachment has come. -/
inductive Phase
  | detached
  | attaching
  | connected
  | reconnecting
deriving DecidableEq, Repr

/-- What happens to the controller. -/
inductive Event
  /-- Attach to a session, in the place of any other. -/
  | switchTo (session : String)
  /-- Give up the attachment. -/
  | detach
  /-- The connection of a generation is open. -/
  | opened (generation : Nat)
  /-- The connection of a generation was closed. -/
  | closed (generation : Nat)
  /-- The connection of a generation could not be opened. -/
  | connectFailed (generation : Nat)
  /-- The server refuses the session, so that there is no point in another attempt. -/
  | rejected (generation : Nat) (reason : String)
  /-- The timer of a generation has run out. -/
  | timerFired (generation : Nat)
  /-- The local window has a new size. -/
  | viewport (size : WindowSize)
  /-- Bytes were typed. -/
  | input (data : List UInt8)
  /-- The connection of a generation brought bytes to show. -/
  | output (generation : Nat) (data : List UInt8)
deriving DecidableEq, Repr

/-- What is to be done for the controller. -/
inductive Action
  | connect (session : String) (generation : Nat)
  | closeConnection
  | disposeRenderer
  | cancelTimer
  | scheduleReconnect (generation delay : Nat)
  | sendResize (size : WindowSize)
  | sendInput (data : List UInt8)
  | render (data : List UInt8)
  | notice (text : String)
deriving DecidableEq, Repr

/-- The state of the controller. -/
structure Controller where
  phase : Phase
  session : Option String
  generation : Nat
  backoff : Backoff
  viewport : WindowSize
deriving DecidableEq, Repr

namespace Controller

/-- The controller of a terminal that is not attached. -/
def start (backoff : Backoff) (viewport : WindowSize) : Controller :=
  ⟨.detached, none, 0, backoff, viewport⟩

/-- Whether there is a connection, open or being opened. -/
def isActive (controller : Controller) : Bool :=
  controller.phase = .attaching || controller.phase = .connected

/-- The actions that give up what the present phase holds. -/
def release : Phase → List Action
  | .detached => []
  | .attaching | .connected => [.closeConnection, .disposeRenderer]
  | .reconnecting => [.cancelTimer, .disposeRenderer]

/-- Give up the attachment and enter a new generation, for which nothing is under way. -/
def teardown (controller : Controller) : Controller :=
  { controller with
    generation := controller.generation + 1, backoff := controller.backoff.reset }

/-- Enter a new generation with a connection of its own. -/
def connecting (controller : Controller) : Controller :=
  { controller with phase := .attaching, generation := controller.generation + 1 }

/-- The action that opens the connection of the present generation. -/
def connectAction (controller : Controller) : Action :=
  .connect (controller.session.getD "") controller.generation

/-- The controller without an attachment. -/
def detached (controller : Controller) : Controller :=
  { controller.teardown with phase := .detached, session := none }

/-- What is shown when the connection is lost. -/
def lostNotice (delay : Nat) : String :=
  "[disconnected, retrying in " ++ String.ofList (Text.natDigits delay) ++ "ms]"

/-- The connection is lost: try again after the next delay. -/
def lost (controller : Controller) : List Action × Controller :=
  let (delay, backoff) := controller.backoff.next
  ([.notice (lostNotice delay), .scheduleReconnect controller.generation delay],
    { controller with phase := .reconnecting, backoff })

/-- React to an event: the actions to carry out, in order, and the new state. -/
def handle (controller : Controller) : Event → List Action × Controller
  | .switchTo session =>
    let next := { controller.teardown with session := some session }.connecting
    (release controller.phase ++ [next.connectAction], next)
  | .detach => (release controller.phase, controller.detached)
  | .opened generation =>
    if generation = controller.generation ∧ controller.phase = .attaching then
      ([.sendResize controller.viewport],
        { controller with phase := .connected, backoff := controller.backoff.reset })
    else ([], controller)
  | .closed generation | .connectFailed generation =>
    if generation = controller.generation ∧ controller.isActive then controller.lost
    else ([], controller)
  | .rejected generation reason =>
    if generation = controller.generation ∧ controller.isActive then
      (release controller.phase ++ [.notice ("[" ++ reason ++ "]")], controller.detached)
    else ([], controller)
  | .timerFired generation =>
    if generation = controller.generation ∧ controller.phase = .reconnecting then
      ([controller.connecting.connectAction], controller.connecting)
    else ([], controller)
  | .viewport size =>
    (if controller.phase = .connected then [.sendResize size] else [],
      { controller with viewport := size })
  | .input data =>
    (if controller.phase = .connected then [.sendInput data] else [], controller)
  | .output generation data =>
    (if generation = controller.generation ∧ controller.phase = .connected then
      [.render data] else [], controller)

/-- React to events in turn: the actions of each, and the last state. -/
def handleAll (controller : Controller) : List Event → List (List Action) × Controller
  | [] => ([], controller)
  | event :: rest =>
    let (actions, next) := controller.handle event
    let (others, last) := next.handleAll rest
    (actions :: others, last)

end Controller
end Client
end SessionHub
