import SessionHub.Terminal.Bridge
import SessionHub.Terminal.Program

/-!
# Consoles

A run of the bridge with the program that it has started, on a host where everything is
done as soon as it can be: what is typed is answered at once, and both pumps make their
moves without delay.
-/

namespace SessionHub
namespace Terminal

/-- A run of a bridge, by its number, and the program it has started. -/
structure Console (Runner : Type) where
  bridge : Bridge Runner
  index : Nat
  execution : Option Execution := none

namespace Console

variable {Runner : Type} (runner : CommandRunner Runner) (console : Console Runner)

/-- Steps of the bridge. -/
def advance (steps : List Step) : Console Runner :=
  { console with bridge := console.bridge.steps runner steps }

/-- The run of a console. -/
def run? : Option Run :=
  console.bridge.runs[console.index]?

/-- Whether the run holds the slot of its session. -/
def holdsSlot : Bool :=
  match console.run? with
  | none => false
  | some run => run.phase.holdsSlot

/-- The steps after both pumps have ended. -/
def close : Console Runner :=
  console.advance runner [.finish console.index, .release console.index]

/-- The output pump reads what the program has put out, and its end. -/
def settle : Console Runner :=
  match console.execution with
  | none => console
  | some execution =>
    let read :=
      { console with execution := some execution.drained }.advance runner
        [.move console.index (.output execution.output)]
    if execution.isRunning then read
    else
      (read.advance runner
        [.move console.index .outputEnded, .move console.index .inputStopped]).close runner

/-- A client asks for a session, which is to be served by a program, if there is one. -/
def connect (bridge : Bridge Runner) (session : String) (program : Option Program) :
    Console Runner :=
  let index := bridge.runs.length
  let asked :=
    { bridge, index : Console Runner }.advance runner
      [.arrive session, .look index, .look index, .acquire index]
  let spawned := asked.advance runner [.spawn index program.isSome]
  match program with
  | some program =>
    if spawned.holdsSlot then
      ({ spawned with execution := some (.start program bridge.firstSize) }).settle runner
    else spawned
  | none => spawned.advance runner [.release index]

/-- The program gets what a frame of the client means. -/
def feed (execution : Execution) (frame : InboundFrame) : Execution :=
  match frame.interpret? with
  | some (.data bytes, _) => execution.type bytes
  | some (.resize size, _) => execution.resize size
  | none => execution

/-- The client ends the connection. -/
def hangUp (frame : Option InboundFrame) : Console Runner :=
  (console.advance runner
    [.move console.index (.frame frame), .move console.index .outputStopped]).close runner

/-- The client sends a frame. -/
def receive (frame : InboundFrame) : Console Runner :=
  if frame.interpret?.isNone then console.hangUp runner (some frame)
  else
    ({ console with execution := console.execution.map (feed · frame) }.advance runner
      [.move console.index (.frame (some frame))]).settle runner

end Console
end Terminal
end SessionHub
