import SessionHub.Command
import SessionHub.Shell.Script

/-!
# A host

Runs commands on a host that has the tools and a shell and nothing else. A command that
takes longer than its limit is ended.
-/

namespace SessionHub
namespace Shell
namespace Host

/-- The directories of programs. -/
def programDirectories : List (List Char) :=
  ["/bin/".toList, "/usr/bin/".toList]

/-- The name of a program without the directory it is in. -/
def programName (program : List Char) : List Char :=
  match programDirectories.find? (·.isPrefixOf program) with
  | some directory => program.drop directory.length
  | none => program

/-- The directories of a host. -/
def directories : List (List Char) :=
  ["/", ".", "..", "/tmp", "/tmp/", "/root", "/home", "/etc", "/etc/", "/dev", "/proc", "/var",
    "/usr", "/usr/", "/usr/bin", "/usr/bin/", "/bin", "/bin/", "./", "../"].map String.toList

/-- Files of a host that are no programs. -/
def files : List (List Char) :=
  ["/etc/passwd", "/etc/hosts", "/etc/hostname", "/dev/null", "/dev/zero"].map String.toList

/-- What is told of a program that does not exist. -/
def missingReason : String := "No such file or directory (os error 2)"

/-- What is told of a file that is no program. -/
def forbiddenReason : String := "Permission denied (os error 13)"

/-- What is told of a file that is sought in a file. -/
def noDirectoryReason : String := "Not a directory (os error 20)"

/-- What is told of a program or an argument that holds a null character. -/
def nullReason : String := "nul byte found in provided data"

/-- Why a name that is no program cannot be started. -/
def refusal (program : List Char) : String :=
  if directories.contains program ∨ files.contains program then forbiddenReason
  else if files.any fun file => (file ++ ['/']).isPrefixOf program then noDirectoryReason
  else missingReason

/-- Whether a program is the shell. -/
def isShell (name : List Char) : Bool :=
  name = "sh".toList || name = "bash".toList || name = "dash".toList

/-- What comes of a program with its arguments, or why it cannot be started. A script
without parameters has the name of the shell. -/
def start (program : String) (arguments : List String) : Except String Effect :=
  let name := programName program.toList
  if (program :: arguments).any (·.toList.contains '\x00') then .error nullReason
  else
    match isShell name, arguments with
    | true, "-c" :: script :: parameters =>
      .ok (Script.run ((if parameters.isEmpty then [program] else parameters).map String.toList)
        script.toList)
    | true, _ => .ok {}
    | false, _ =>
      match Tool.run? .host name (arguments.map String.toList) [] with
      | some effect => .ok effect
      | none => .error (refusal program.toList)

/-- Why a command without a program cannot be run. -/
def emptyReason : String := "empty command"

/-- What a program leaves when it has come to its end. -/
def output (effect : Effect) : CommandOutput where
  exitCode := effect.status
  stdout := String.ofList (Text.Utf8.lossy effect.out)
  stderr := String.ofList (Text.Utf8.lossy effect.err)

/-- What comes of a call. Every program takes some time, so that no limit of zero is
kept. -/
def execute (call : CommandCall) : CommandResult :=
  match call.argv with
  | [] => .error (.notSpawned "" emptyReason)
  | program :: arguments =>
    match start program arguments with
    | .error reason => .error (.notSpawned program reason)
    | .ok effect =>
      if call.limit ≤ effect.millis then .error (.timedOut program call.limit)
      else .ok (output effect)

/-- Runs commands on the host. -/
def runner : CommandRunner Unit
  | call, state => (execute call, state)

/-- Why the program of a terminal cannot be started, if it cannot. -/
def spawnFault? : List String → Option String
  | [] => some emptyReason
  | program :: arguments =>
    match start program arguments with
    | .error reason => some (program ++ ": " ++ reason)
    | .ok _ => none

end Host
end Shell
end SessionHub
