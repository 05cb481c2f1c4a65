import SessionHub.Session.Manager
import SessionHub.Terminal.Stream

/-!
# The bridge

A bridge connects clients to sessions. A run of the bridge serves one connection: it looks
the session up, takes the session's slot, starts a program on a terminal, streams until
both pumps have ended, and gives the slot back. Each session has one slot, so that at most
one connection streams at a time. Any number of runs may be under way; each step belongs
to one of them.
-/

namespace SessionHub
namespace Terminal

/-- How a run comes out. -/
inductive Outcome
  /-- There is no such session. -/
  | notFound
  /-- Another run has the slot. -/
  | busy
  /-- Whether there is such a session could not be found out. -/
  | lookupFailed
  /-- The program of the terminal could not be started. -/
  | spawnFailed
  /-- The connection was streaming. -/
  | finished (reason : EndReason)
deriving DecidableEq, Repr

/-- The stages that a run goes through. -/
inductive Stage
  | validating
  | spawning
  | streaming
  | closing
  | closed
deriving DecidableEq, Repr

namespace Outcome

/-- The last stage of a run before it was closed. -/
def endedIn : Outcome → Stage
  | .notFound | .busy | .lookupFailed => .validating
  | .spawnFailed => .spawning
  | .finished _ => .closing

/-- The frame that tells the client why it is not connected. -/
def refusal : Outcome → List OutboundFrame
  | .notFound => [.close 4404 "session not found"]
  | .busy => [.close 4409 "session already attached"]
  | .lookupFailed => [.close 1011 "session lookup failed"]
  | .spawnFailed => [.close 1011 "spawn failed"]
  | .finished _ => []

end Outcome

/-- How far a run has come. -/
inductive Phase
  /-- The session is being looked up. -/
  | validating (lookup : Job (Except SessionError Bool))
  /-- The session is there, and its slot is not taken yet. -/
  | found
  /-- The slot is held, and the program not started yet. -/
  | spawning
  /-- The slot is held, and the pumps are at work. -/
  | streaming (stream : Stream)
  /-- The slot is held, and about to be given back. -/
  | closing (outcome : Outcome)
  /-- The run is over. -/
  | closed (outcome : Outcome)

namespace Phase

/-- Whether a run holds the slot of its session. -/
def holdsSlot : Phase → Bool
  | .spawning | .streaming _ | .closing _ => true
  | .validating _ | .found | .closed _ => false

/-- How a run came out, if it is over. -/
def outcome? : Phase → Option Outcome
  | .closed outcome => some outcome
  | _ => none

/-- The frames that were sent while streaming. -/
def streamed : Phase → List OutboundFrame
  | .streaming stream => stream.sent
  | _ => []

end Phase

/-- A run of the bridge. -/
structure Run where
  session : String
  phase : Phase
  /-- The frames that were sent, those of a stream that is under way excepted. -/
  sent : List OutboundFrame := []

namespace Run

variable (run : Run)

/-- All frames that were sent, in order. -/
def frames : List OutboundFrame :=
  run.sent ++ run.phase.streamed

/-- The run after it was refused. -/
def refused (outcome : Outcome) : Run :=
  { run with phase := .closed outcome, sent := run.sent ++ outcome.refusal }

/-- The run after its session was looked up. -/
def lookedUp : Except SessionError Bool → Run
  | .ok true => { run with phase := .found }
  | .ok false => run.refused .notFound
  | .error _ => run.refused .lookupFailed

/-- The run after its program was started, or was not. -/
def spawned (size : WindowSize) (isStarted : Bool) : Run :=
  if isStarted then { run with phase := .streaming { size } }
  else
    { run with
      phase := .closing .spawnFailed, sent := run.sent ++ Outcome.spawnFailed.refusal }

end Run

/-- A step of one of the runs. -/
inductive Step
  /-- A client asks for a session: a new run. -/
  | arrive (session : String)
  /-- The lookup of a run goes on. -/
  | look (run : Nat)
  /-- A run takes the slot of its session, or finds it taken. -/
  | acquire (run : Nat)
  /-- A run starts its program, or fails to. -/
  | spawn (run : Nat) (isStarted : Bool)
  /-- A pump of a run makes a move. -/
  | move (run : Nat) (move : Move)
  /-- A run finds that both of its pumps have ended. -/
  | finish (run : Nat)
  /-- A run gives its slot back. -/
  | release (run : Nat)
deriving DecidableEq, Repr

/-- A bridge with its runs, which are numbered in the order of their arrival. -/
structure Bridge (Runner : Type) where
  manager : SessionManager
  settings : TerminalSettings
  world : World Runner
  /-- The sessions whose slot is held. -/
  attached : List String := []
  runs : List Run := []

namespace Bridge

variable {Runner : Type} (bridge : Bridge Runner)

/-- The size of a new terminal. -/
def firstSize : WindowSize :=
  ⟨bridge.settings.cols, bridge.settings.rows⟩

/-- Whether the slot of a session is held. -/
def isAttached (session : String) : Bool :=
  bridge.attached.contains session

/-- The bridge with a run replaced. -/
def withRun (index : Nat) (run : Run) : Bridge Runner :=
  { bridge with runs := bridge.runs.set index run }

/-- The lookup of a run goes on. -/
def look (runner : CommandRunner Runner) (index : Nat) (run : Run) : Bridge Runner :=
  match run.phase with
  | .validating lookup =>
    match lookup with
    | .done result => bridge.withRun index (run.lookedUp result)
    | job =>
      let (next, world) := job.advance runner bridge.world
      { bridge.withRun index { run with phase := .validating next } with world }
  | _ => bridge

/-- A run takes the slot of its session, or finds it taken. -/
def acquire (index : Nat) (run : Run) : Bridge Runner :=
  match run.phase with
  | .found =>
    if bridge.isAttached run.session then bridge.withRun index (run.refused .busy)
    else
      { bridge.withRun index { run with phase := .spawning } with
        attached := run.session :: bridge.attached }
  | _ => bridge

/-- A run starts its program, or fails to. -/
def spawn (index : Nat) (run : Run) (isStarted : Bool) : Bridge Runner :=
  match run.phase with
  | .spawning => bridge.withRun index (run.spawned bridge.firstSize isStarted)
  | _ => bridge

/-- A pump of a run makes a move. -/
def move (index : Nat) (run : Run) (move : Move) : Bridge Runner :=
  match run.phase with
  | .streaming stream =>
    match stream.step move with
    | none => bridge
    | some next => bridge.withRun index { run with phase := .streaming next }
  | _ => bridge

/-- A run finds that both of its pumps have ended. -/
def finish (index : Nat) (run : Run) : Bridge Runner :=
  match run.phase with
  | .streaming stream =>
    if stream.isOver then
      bridge.withRun index
        { run with phase := .closing (.finished stream.reason), sent := run.frames }
    else bridge
  | _ => bridge

/-- A run gives its slot back. -/
def release (index : Nat) (run : Run) : Bridge Runner :=
  match run.phase with
  | .closing outcome =>
    { bridge.withRun index { run with phase := .closed outcome } with
      attached := bridge.attached.filter (· ≠ run.session) }
  | _ => bridge

/-- A new run. -/
def arrive (session : String) : Bridge Runner :=
  { bridge with
    runs := bridge.runs ++
      [{ session, phase := .validating (bridge.manager.hasSession session) }] }

/-- Let a run act, if there is one of that number. -/
def act (index : Nat) (action : Run → Bridge Runner) : Bridge Runner :=
  match bridge.runs[index]? with
  | none => bridge
  | some run => action run

/-- The bridge after a step. A step that the run cannot make changes nothing. -/
def step (runner : CommandRunner Runner) : Step → Bridge Runner
  | .arrive session => bridge.arrive session
  | .look index => bridge.act index (bridge.look runner index)
  | .acquire index => bridge.act index (bridge.acquire index)
  | .spawn index isStarted => bridge.act index (bridge.spawn index · isStarted)
  | .move index move => bridge.act index (bridge.move index · move)
  | .finish index => bridge.act index (bridge.finish index)
  | .release index => bridge.act index (bridge.release index)

/-- The bridge after several steps. -/
def steps (runner : CommandRunner Runner) (steps : List Step) : Bridge Runner :=
  steps.foldl (fun bridge => bridge.step runner) bridge

end Bridge
end Terminal
end SessionHub
