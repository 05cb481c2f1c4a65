import SessionHub.Settings
import SessionHub.Text.Utf8
import SessionHub.Toml.Document

/-!
# Settings files

The settings of a TOML document. Each section is a table, or an array of its values in
the order of its fields. What is not known is refused, and what is not given has its
default.
-/

namespace SessionHub

open Toml (Entries Value)

namespace Settings

/-- A setting of a section. -/
structure Entry (Section : Type) where
  name : String
  /-- Put the value of the setting into the section. -/
  put : Value → Section → Option Section
  /-- Whether an array may end before the setting. -/
  mayBeCut : Bool := true

/-- Put the entries of a table into a section. -/
def putEntries (known : List (Entry Section)) : Entries → Section → Option Section
  | [], result => some result
  | (key, value) :: rest, result =>
    (known.find? (·.name = key)).bind fun entry =>
      (entry.put value result).bind (putEntries known rest)

/-- Put the items of an array into a section. Further items do not matter. -/
def putItems : List (Entry Section) → List Value → Section → Option Section
  | [], _, result => some result
  | entry :: entries, [], result =>
    if entry.mayBeCut then putItems entries [] result else none
  | entry :: entries, value :: rest, result =>
    (entry.put value result).bind (putItems entries rest)

/-- A section with the settings that a value gives. -/
def putSection (known : List (Entry Section)) (value : Value) (start : Section) :
    Option Section :=
  match value with
  | .table _ entries => putEntries known entries start
  | .array items => putItems known items start
  | _ => none

/-- The settings of the server. -/
def serverEntries : List (Entry ServerSettings) :=
  [⟨"host", fun value result => value.string?.map ({ result with host := · }), true⟩,
   ⟨"port", fun value result => value.uint16?.map ({ result with port := · }), true⟩,
   ⟨"token", fun value result => value.string?.map ({ result with token := some · }), false⟩]

/-- The settings of session management. -/
def tmuxEntries : List (Entry TmuxSettings) :=
  [⟨"binary", fun value result => value.string?.map ({ result with binary := · }), true⟩,
   ⟨"socket_name",
     fun value result => value.string?.map ({ result with socketName := some · }), false⟩,
   ⟨"session_prefix",
     fun value result => value.string?.map ({ result with sessionPrefix := · }), true⟩,
   ⟨"command_timeout_ms",
     fun value result => value.uint64?.map ({ result with commandLimit := · }), true⟩,
   ⟨"default_working_directory",
     fun value result => value.string?.map ({ result with defaultDirectory := some · }),
     false⟩]

/-- The settings of the terminal. -/
def terminalEntries : List (Entry TerminalSettings) :=
  [⟨"cols", fun value result => value.uint16?.map ({ result with cols := · }), true⟩,
   ⟨"rows", fun value result => value.uint16?.map ({ result with rows := · }), true⟩,
   ⟨"term", fun value result => value.string?.map ({ result with term := · }), true⟩,
   ⟨"colorterm", fun value result => value.string?.map ({ result with colorterm := · }), true⟩]

/-- The settings of the client. -/
def clientEntries : List (Entry ClientSettings) :=
  [⟨"reconnect_base_ms",
     fun value result => value.uint64?.map ({ result with reconnectBase := · }), true⟩,
   ⟨"reconnect_max_ms",
     fun value result => value.uint64?.map ({ result with reconnectMax := · }), true⟩]

/-- The sections of a settings file. -/
def sections : List (Entry Settings) :=
  [⟨"server", fun value result =>
     (putSection serverEntries value {}).map ({ result with server := · }), true⟩,
   ⟨"tmux", fun value result =>
     (putSection tmuxEntries value {}).map ({ result with tmux := · }), true⟩,
   ⟨"terminal", fun value result =>
     (putSection terminalEntries value {}).map ({ result with terminal := · }), true⟩,
   ⟨"client", fun value result =>
     (putSection clientEntries value {}).map ({ result with client := · }), true⟩]

/-- The settings of a text. -/
def parse? (text : String) : Option Settings :=
  (Toml.parse? text).bind fun entries => putEntries sections entries {}

/-! ## Where the file is -/

/-- What is found at a path. -/
inductive Found
  | missing
  | directory
  | file (bytes : List UInt8)
deriving DecidableEq, Repr

/-- Why the settings cannot be had. -/
inductive LoadError
  /-- The file cannot be read as a text. -/
  | unreadable
  /-- The text does not denote settings. -/
  | invalid
deriving DecidableEq, Repr

/-- The settings of what is found at a path. A missing file leaves everything as it is by
default. -/
def load : Found → Except LoadError Settings
  | .missing => .ok {}
  | .directory => .error .unreadable
  | .file bytes =>
    match Text.Utf8.decode? bytes with
    | none => .error .unreadable
    | some text =>
      match parse? (String.ofList text) with
      | none => .error .invalid
      | some settings => .ok settings

/-- The path of the settings file in a home directory. -/
def defaultPath (home : String) : String :=
  home ++ "/.config/shellmux/config.toml"

/-- The path where the settings are looked for: the given one with the home directory in
place of a tilde, or the usual one. -/
def path? (environment : Shell.Environment) : Option String → Option String
  | some given => some (String.ofList (Shell.expandTilde environment given.toList))
  | none =>
    match environment.get? "XDG_CONFIG_HOME" with
    | some base =>
      if base.startsWith "/" then some (base ++ "/shellmux/config.toml")
      else environment.home?.map defaultPath
    | none => environment.home?.map defaultPath

end Settings
end SessionHub
