import SessionHub.Text.Duration

/-!
# Commands

What comes of running an external command with a time limit. An exit code other than zero
is a result like any other; a failure is a command that did not come to its end.
-/

namespace SessionHub

/-- What a finished command leaves. -/
structure CommandOutput where
  /-- The exit code, or -1 if a signal ended the command. -/
  exitCode : Int := 0
  stdout : String := ""
  stderr : String := ""
deriving DecidableEq, Repr

/-- Whether a command was successful. -/
def CommandOutput.isSuccess (output : CommandOutput) : Bool :=
  output.exitCode = 0

/-- Why a command did not come to its end. -/
inductive CommandFailure
  /-- It could not be started. -/
  | notSpawned (program reason : String)
  /-- It was killed after so many milliseconds. -/
  | timedOut (program : String) (millis : Nat)
  /-- Its output could not be read. -/
  | broken (program reason : String)
deriving DecidableEq, Repr

namespace CommandFailure

/-- The wording of a failure. -/
def message : CommandFailure → String
  | .notSpawned program reason => "failed to spawn " ++ program ++ ": " ++ reason
  | .timedOut program millis => program ++ " timed out after " ++ Text.durationText millis
  | .broken program reason => "I/O error while running " ++ program ++ ": " ++ reason

end CommandFailure

/-- What comes of a command. -/
abbrev CommandResult := Except CommandFailure CommandOutput

/-- A command that is to be run: program and arguments, and the time limit in
milliseconds. -/
structure CommandCall where
  argv : List String
  limit : Nat
deriving DecidableEq, Repr

/-- The program of a call. -/
def CommandCall.program (call : CommandCall) : String :=
  call.argv.headD ""

/-- Whatever runs commands, with a state of its own. -/
def CommandRunner (State : Type) :=
  CommandCall → State → CommandResult × State

/-! ## Scripted commands -/

/-- The reply to a command that is not really run. -/
inductive ScriptedReply
  | finished (output : CommandOutput)
  | timeout
  | notSpawned (reason : String)
  | broken (reason : String)
deriving DecidableEq, Repr

namespace ScriptedReply

/-- The result that a reply gives a call. -/
def result (call : CommandCall) : ScriptedReply → CommandResult
  | .finished output => .ok output
  | .timeout => .error (.timedOut call.program call.limit)
  | .notSpawned reason => .error (.notSpawned call.program reason)
  | .broken reason => .error (.broken call.program reason)

/-- Runs each command by taking the next reply. After the last one, commands succeed
without output. -/
def runner : CommandRunner (List ScriptedReply)
  | _, [] => (.ok {}, [])
  | call, reply :: rest => (reply.result call, rest)

end ScriptedReply
end SessionHub
