import SessionHub.Cli.Errand
import SessionHub.Shell.Expansion

/-!
# The program

Reads the command line, the environment and the settings file, and prints the outcome.
The program has no network of its own: commands come out as they do where no server can
be reached.
-/

namespace SessionHub
namespace Main

/-- The variables that tell where the settings file is. -/
def variableNames : List String := ["HOME", "XDG_CONFIG_HOME"]

/-- The environment of the program. -/
def environment : IO Shell.Environment := do
  let mut found := []
  for name in variableNames do
    if let some value ← IO.getEnv name then
      found := found ++ [(name, value)]
  pure { bindings := found }

/-- What is found at a path. -/
def find (path : String) : IO Settings.Found := do
  try
    let bytes ← IO.FS.readBinFile path
    pure (.file bytes.toList)
  catch failure =>
    match failure with
    | .noFileOrDirectory _ _ _ => pure .missing
    | _ => pure .directory

/-- The outcome of a command line that can be carried out. -/
def outcome (invocation : Cli.Invocation) : IO Cli.Outcome := do
  match Settings.path? (← environment) invocation.config with
  | none => pure { failure := some Cli.noSettingsPathMessage }
  | some path =>
    match Settings.load (← find path) with
    | .error failure => pure { failure := some (Cli.settingsMessage path failure) }
    | .ok settings =>
      let bytes ← IO.getRandomBytes Http.Token.byteCount.toUSize
      let token := Http.Token.ofBytes bytes.toList
      pure (Cli.Errand.ofInvocation settings invocation token 0).offline

/-- Print what a command line that is not carried out comes to. -/
def report (failure : Cli.UsageError) : IO Unit := do
  match failure with
  | .versionWanted => IO.print Cli.versionText
  | .helpWanted => IO.print Cli.usageText
  | _ => IO.eprint Cli.usageText

/-- Carry out a command line, whose first word is the name of the program. -/
def run (words : List String) : IO UInt32 := do
  match Cli.Invocation.parse words with
  | .error failure =>
    report failure
    pure failure.exitCode.toUInt32
  | .ok invocation =>
    let outcome ← outcome invocation
    for line in outcome.lines do
      IO.println line
    match outcome.failure with
    | none => pure 0
    | some reason =>
      IO.eprintln ("Error: " ++ reason)
      pure 1

end Main
end SessionHub

/-- Carry out the command line. -/
def main (arguments : List String) : IO UInt32 :=
  SessionHub.Main.run (SessionHub.Cli.programName :: arguments)
