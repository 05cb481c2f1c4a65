import SessionHub.Shell.Expansion

/-!
# Settings

What can be configured, and what holds where nothing is.
-/

namespace SessionHub

/-- Where the server listens, and the token that its clients must know. -/
structure ServerSettings where
  host : String := "127.0.0.1"
  port : UInt16 := 8890
  token : Option String := none
deriving DecidableEq, Repr

/-- How sessions are managed. -/
structure TmuxSettings where
  binary : String := "tmux"
  /-- The name of the socket, if it is not the usual one. -/
  socketName : Option String := none
  /-- What the names of all sessions begin with. -/
  sessionPrefix : String := "chat-"
  /-- How long a command may take, in milliseconds. -/
  commandLimit : UInt64 := 5000
  /-- The working directory where none is known, before expansion. -/
  defaultDirectory : Option String := none
deriving DecidableEq, Repr

/-- The terminal that a session is attached to. -/
structure TerminalSettings where
  cols : UInt16 := 120
  rows : UInt16 := 40
  term : String := "xterm-256color"
  colorterm : String := "truecolor"
deriving DecidableEq, Repr

/-- The delays between attempts to connect, in milliseconds. -/
structure ClientSettings where
  reconnectBase : UInt64 := 500
  reconnectMax : UInt64 := 10000
deriving DecidableEq, Repr

/-- All settings. -/
structure Settings where
  server : ServerSettings := {}
  tmux : TmuxSettings := {}
  terminal : TerminalSettings := {}
  client : ClientSettings := {}
deriving DecidableEq, Repr

/-- The environment variables that a terminal's program is given. -/
def TerminalSettings.environment (settings : TerminalSettings) : List (String × String) :=
  [("TERM", settings.term), ("COLORTERM", settings.colorterm)]

/-- The working directory where none is known: the configured one after expansion, or the
home directory, or the root. -/
def TmuxSettings.fallbackDirectory (settings : TmuxSettings)
    (environment : Shell.Environment) : String :=
  match settings.defaultDirectory with
  | some directory => Shell.expandPath environment directory
  | none => environment.home?.getD "/"

end SessionHub
