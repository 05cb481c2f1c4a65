import SessionHub.Cli.Grammar
import SessionHub.Status
import SessionHub.Text.Numeral

/-!
# Commands

The commands of the program, and the command lines that stand for them. Some options may
stand before the command as well as after it; those after it win.
-/

namespace SessionHub
namespace Cli

/-- What the program is asked to do. -/
inductive Command
  /-- Run the server. -/
  | serve (host : Option String) (port : Option UInt16)
  /-- List sessions. -/
  | list (json : Bool)
  /-- Create a session. -/
  | new (directory name : Option String) (attach : Bool)
  /-- Destroy a session. -/
  | kill (session : String)
  /-- Report a status change of a session. -/
  | status (session : String) (status : Status) (eventId title : Option String)
      (exitCode : Option Int32)
  /-- Send a payload to the observers of a scope. -/
  | notify (scope payload : String)
  /-- Attach the local terminal to a session. -/
  | attach (session : String)
  /-- Print the event feed. -/
  | events (subject : Option String)
deriving DecidableEq, Repr

/-- A command with the options that all commands have. -/
structure Invocation where
  command : Command
  /-- The path of the settings file. -/
  config : Option String := none
  /-- The address of the server. -/
  server : Option String := none
  token : Option String := none
  verbose : Bool := false
deriving DecidableEq, Repr

/-- The name of the program. -/
def programName : String := "shellmux"

/-- What is printed when the version is asked for. -/
def versionText : String := programName ++ " 0.1.0\n"

/-! ## Values -/

/-- A whole number of a signed word, with an optional sign. -/
def readWhole? (text : String) : Option Int :=
  Text.readSigned? 0x8000000000000000 text.toList

/-- The number of a port. -/
def readPort? (text : String) : Option UInt16 :=
  (readWhole? text).bind fun value =>
    if 0 ≤ value ∧ value < 0x10000 then some (UInt16.ofNat value.toNat) else none

/-- An exit code. -/
def readExitCode? (text : String) : Option Int32 :=
  (readWhole? text).bind fun value =>
    if -0x80000000 ≤ value ∧ value < 0x80000000 then some (Int32.ofInt value) else none

/-! ## The grammar -/

/-- An option with a value. -/
def option (name : String) (letter : Option Char) : Argument :=
  ⟨name, some name, letter, .value fun _ => true⟩

/-- A flag. -/
def flag (name : String) (letter : Option Char) : Argument :=
  ⟨name, some name, letter, .flag⟩

/-- A positional argument. -/
def positional (name : String) (isRight : String → Bool := fun _ => true) : Argument :=
  ⟨name, none, none, .value isRight⟩

/-- The options of all commands. -/
def commonOptions : List Argument :=
  [option "config" none, option "server" none, option "token" none, flag "verbose" (some 'v'),
   ⟨"help", some "help", some 'h', .help⟩]

/-- The grammar of the words before the command. -/
def mainGrammar : Grammar where
  options := commonOptions ++ [⟨"version", some "version", some 'V', .version⟩]
  commands :=
    ["serve", "ls", "new", "kill", "status", "notify", "attach", "events", helpCommand]

/-- The arguments of a command: its own options, and its positional arguments. -/
def argumentsOf (command : String) : List Argument × List Argument :=
  if command = "serve" then
    ([option "host" (some 'H'),
      ⟨"port", some "port", some 'p', .value fun text => (readPort? text).isSome⟩], [])
  else if command = "ls" then ([flag "json" none], [])
  else if command = "new" then
    ([option "dir" (some 'd'), option "name" (some 'n'), flag "attach" (some 'a')], [])
  else if command = "kill" ∨ command = "attach" then ([], [positional "session"])
  else if command = "status" then
    ([option "event-id" none, option "title" none,
      ⟨"exit-code", some "exit-code", none, .value fun text => (readExitCode? text).isSome⟩],
     [positional "session", positional "status" fun text => (Status.ofName? text).isSome])
  else if command = "notify" then ([], [positional "scope", positional "payload"])
  else if command = "events" then ([option "subject" none], [])
  else ([], [])

/-- What is printed when help is asked for. -/
def usageText : String :=
  "Usage: " ++ programName ++ " [OPTIONS] <COMMAND>\n\nCommands: " ++
    ", ".intercalate mainGrammar.commands ++ "\n"

/-- The grammar of the words after a command. -/
def grammarOf (command : String) : Grammar where
  options := (argumentsOf command).1 ++ commonOptions
  positionals := (argumentsOf command).2

/-- The command that a name and its arguments stand for. -/
def buildCommand (name : String) (given : Given) : Option Command :=
  let text (argument : String) := given.lookup argument
  let isGiven (argument : String) := (given.lookup argument).isSome
  if name = "serve" then some (.serve (text "host") ((text "port").bind readPort?))
  else if name = "ls" then some (.list (isGiven "json"))
  else if name = "new" then some (.new (text "dir") (text "name") (isGiven "attach"))
  else if name = "kill" then (text "session").map .kill
  else if name = "status" then do
    let session ← text "session"
    let status ← (text "status").bind Status.ofName?
    pure (.status session status (text "event-id") (text "title")
      ((text "exit-code").bind readExitCode?))
  else if name = "notify" then do
    let scope ← text "scope"
    let payload ← text "payload"
    pure (.notify scope payload)
  else if name = "attach" then (text "session").map .attach
  else if name = "events" then some (.events (text "subject"))
  else none

/-- What comes of asking for help on a command. -/
def helpOn : List String → UsageError
  | [] => .helpWanted
  | [command] => if mainGrammar.commands.contains command then .helpWanted else .unknownCommand
  | _ :: _ :: _ => .unknownCommand

/-- The command with the options given before it and after it. -/
def invocation (name : String) (before after : Given) : Except UsageError Invocation :=
  let common (argument : String) := (after.lookup argument).or (before.lookup argument)
  match buildCommand name after with
  | none => .error .missingArgument
  | some command =>
    .ok
      { command
        config := common "config"
        server := common "server"
        token := common "token"
        verbose := (common "verbose").isSome }

/-- What a command line asks for. The first word is the name of the program. -/
def Invocation.parse (words : List String) : Except UsageError Invocation := do
  match ← mainGrammar.readWords {} (words.drop 1) with
  | (reading, none) =>
    let reading ← reading.settled
    throw (if reading.given.isEmpty then .nothingGiven else .noCommand)
  | (reading, some (name, rest)) =>
    if name = helpCommand then throw (helpOn rest)
    else
      let after ← (grammarOf name).readAll rest
      let reading ← reading.settled
      invocation name reading.given after

end Cli
end SessionHub
