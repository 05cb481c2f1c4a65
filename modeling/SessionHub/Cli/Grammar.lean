/-!
# The grammar of command lines

The words of a command line are options, values and positional arguments. An option is
written `--name value`, `--name=value`, or with a letter as `-n value`, `-nvalue` or
`-n=value`; several flags share one hyphen. After `--` all words are positional. A word
that awaits its place, such as an option without its value yet, is settled when the next
one begins, and only then found to be right or wrong.
-/

namespace SessionHub
namespace Cli

/-- Why a command line is not carried out. -/
inductive UsageError
  /-- Help was asked for. -/
  | helpWanted
  /-- The version was asked for. -/
  | versionWanted
  /-- There is nothing on the command line. -/
  | nothingGiven
  /-- There are options but no command. -/
  | noCommand
  /-- There is no such command. -/
  | unknownCommand
  /-- There is no such option, or no place for the word. -/
  | unknownArgument
  /-- An option is given twice. -/
  | givenTwice
  /-- A flag is given a value. -/
  | unneededValue
  /-- An option is not given its value. -/
  | missingValue
  /-- A value is not of the right kind. -/
  | wrongValue
  /-- A positional argument is missing. -/
  | missingArgument
deriving DecidableEq, Repr

/-- The exit code of a program that is not carried out for a reason. -/
def UsageError.exitCode : UsageError → Nat
  | .helpWanted | .versionWanted => 0
  | _ => 2

/-- What an argument is for. -/
inductive Purpose
  /-- It takes a value that passes a check. -/
  | value (isRight : String → Bool)
  /-- It stands for itself. -/
  | flag
  /-- It asks for help. -/
  | help
  /-- It asks for the version. -/
  | version

/-- An argument. Positional ones have neither a long name nor a letter. -/
structure Argument where
  name : String
  long : Option String := none
  letter : Option Char := none
  purpose : Purpose

/-- What may stand on a command line, or on the part of it after a command. -/
structure Grammar where
  options : List Argument
  positionals : List Argument := []
  commands : List String := []

/-- The command that asks for help. -/
def helpCommand : String := "help"

/-- The arguments that were given, by name, with their values. A flag has the value `true`. -/
abbrev Given := List (String × String)

/-- How far the words have been read. -/
structure Reading where
  given : Given := []
  /-- The argument that is not settled yet, with its value if that has been read. -/
  pending : Option (Argument × Option String) := none
  /-- Whether all further words are positional. -/
  escaped : Bool := false
  /-- How many positional arguments have been read. -/
  position : Nat := 0

namespace Reading

/-- Settle an argument with its value. -/
def settle (given : Given) (argument : Argument) (value : Option String) :
    Except UsageError Given :=
  match argument.purpose with
  | .help => .error .helpWanted
  | .version => .error .versionWanted
  | .flag =>
    if (given.lookup argument.name).isSome then .error .givenTwice
    else .ok ((argument.name, "true") :: given)
  | .value isRight =>
    match value with
    | none => .error .missingValue
    | some text =>
      if (given.lookup argument.name).isSome then .error .givenTwice
      else if isRight text then .ok ((argument.name, text) :: given)
      else .error .wrongValue

/-- Settle what is pending. -/
def settled (reading : Reading) : Except UsageError Reading :=
  match reading.pending with
  | none => .ok reading
  | some (argument, value) =>
    (settle reading.given argument value).map fun given =>
      { reading with given, pending := none }

/-- Whether an option awaits its value. -/
def awaitsValue (reading : Reading) : Bool :=
  match reading.pending with
  | some (_, none) => true
  | _ => false

/-- Settle what is pending, and then an argument that is complete. -/
def add (reading : Reading) (argument : Argument) (value : Option String) :
    Except UsageError Reading := do
  let reading ← reading.settled
  let given ← settle reading.given argument value
  pure { reading with given }

/-- Settle what is pending, and then let an argument await its turn. -/
def await (reading : Reading) (argument : Argument) (value : Option String) :
    Except UsageError Reading := do
  let reading ← reading.settled
  pure { reading with pending := some (argument, value) }

end Reading

namespace Grammar

variable (grammar : Grammar)

/-- Read an option by its long name, with the value after its equals sign. -/
def readLong (reading : Reading) (word : List Char) : Except UsageError Reading :=
  let name := String.ofList (word.takeWhile (· ≠ '='))
  let value :=
    if word.contains '=' then some (String.ofList ((word.dropWhile (· ≠ '=')).drop 1))
    else none
  match grammar.options.find? (·.long = some name) with
  | none => .error .unknownArgument
  | some argument =>
    match argument.purpose, value with
    | .value _, none => reading.await argument none
    | .value _, some text => reading.add argument (some text)
    | _, none => reading.add argument none
    | _, some _ => .error .unneededValue

/-- Read options by their letters. What follows the letter of an option with a value is
that value. -/
def readLetters (reading : Reading) : List Char → Except UsageError Reading
  | [] => .ok reading
  | letter :: rest =>
    match grammar.options.find? (·.letter = some letter) with
    | none => .error .unknownArgument
    | some argument =>
      match argument.purpose with
      | .value _ =>
        match rest with
        | [] => reading.await argument none
        | '=' :: value => reading.add argument (some (String.ofList value))
        | value => reading.add argument (some (String.ofList value))
      | _ =>
        match reading.add argument none with
        | .error failure => .error failure
        | .ok reading => readLetters reading rest

/-- Read a word in the place of a positional argument. -/
def readPositional (reading : Reading) (word : String) : Except UsageError Reading :=
  match grammar.positionals[reading.position]? with
  | some argument =>
    (reading.await argument (some word)).map fun reading =>
      { reading with position := reading.position + 1 }
  | none =>
    if grammar.commands.isEmpty ∨ (reading.escaped ∧ word ∈ grammar.commands) then
      .error .unknownArgument
    else .error .unknownCommand

/-- Read a word that is no command. -/
def readWord (reading : Reading) (word : String) : Except UsageError Reading :=
  if reading.escaped then grammar.readPositional reading word
  else
    match word.toList with
    | ['-', '-'] => .ok { reading with escaped := true }
    | '-' :: '-' :: rest => grammar.readLong reading rest
    | '-' :: letter :: rest => grammar.readLetters reading (letter :: rest)
    | _ =>
      match reading.pending with
      | some (argument, none) => .ok { reading with pending := some (argument, some word) }
      | _ => grammar.readPositional reading word

/-- Whether a word is a command in its place. -/
def isCommand (reading : Reading) (word : String) : Bool :=
  ¬reading.escaped && ¬reading.awaitsValue && grammar.commands.contains word

/-- Read words up to a command: what was read, and the command with the words after it. -/
def readWords (reading : Reading) :
    List String → Except UsageError (Reading × Option (String × List String))
  | [] => .ok (reading, none)
  | word :: rest =>
    if grammar.isCommand reading word then .ok (reading, some (word, rest))
    else
      match grammar.readWord reading word with
      | .error failure => .error failure
      | .ok reading => readWords reading rest

/-- Whether all positional arguments were given. -/
def isComplete (given : Given) : Bool :=
  grammar.positionals.all fun argument => (given.lookup argument.name).isSome

/-- Read all words of a part without commands. -/
def readAll (words : List String) : Except UsageError Given := do
  let (reading, _) ← grammar.readWords {} words
  let reading ← reading.settled
  if grammar.isComplete reading.given then pure reading.given
  else throw .missingArgument

end Grammar
end Cli
end SessionHub
