import SessionHub.Shell.Tool
import SessionHub.Text.Blank

/-!
# Scripts

Shell scripts of simple commands: words with quotes and parameters, pipes, redirections
to the other output or to nowhere, and commands one after the other, or only after a
success or a failure. A command in the background holds the outputs of the script until
it ends, so that the script takes its time all the same.
-/

namespace SessionHub
namespace Shell

/-- A token of a script. -/
inductive Token
  | word (text : List Char)
  /-- One output goes where the other goes. -/
  | duplicate (source : Nat)
  /-- One output goes to the file that follows. -/
  | toFile (source : Nat)
  /-- The input comes from the file that follows. -/
  | fromFile
  | pipe
  | next
  | ifSuccess
  | ifFailure
deriving DecidableEq, Repr

/-- How the characters of a script are quoted. -/
inductive Quoting
  | plain
  | single
  | double
deriving DecidableEq, Repr

namespace Script

/-- The number of the process that carries a script out, as a word. -/
def processNumber : List Char := "4242".toList

/-- The token of a word that is complete, if there is one. -/
def wordToken : Option (List Char) → List Token
  | none => []
  | some text => [.word text]

/-- The output that is redirected, where a word before the mark names it. -/
def source : Option (List Char) → Option Nat
  | some ['1'] => some 1
  | some ['2'] => some 2
  | _ => none

/-- A word with more text at its end. A word that has not begun is begun. -/
def grow (word : Option (List Char)) (text : List Char) : Option (List Char) :=
  some (word.getD [] ++ text)

/-- The token of a word before a redirection, unless it names an output. -/
def beforeMark (word : Option (List Char)) : List Token :=
  if (source word).isSome then [] else wordToken word

/-- What a character after a dollar sign stands for, if it is a parameter. -/
def parameter? (parameters : List (List Char)) (name : Char) : Option (List Char) :=
  if name = '$' then some processNumber
  else if name = '#' then some (Text.natDigits (parameters.length - 1))
  else if Text.isDigit name then some (parameters.getD (name.toNat - 48) [])
  else none

/-- The tokens of all texts but the last, which goes on as a word, after a word that may
have begun. -/
def spread (word : Option (List Char)) : List (List Char) → List Token × Option (List Char)
  | [] => ([], word)
  | text :: texts =>
    match (text :: texts).getLast?, texts with
    | some last, _ :: _ => (.word ((grow word text).getD []) :: texts.dropLast.map .word, some last)
    | _, _ => ([], grow word text)

/-- The pieces of a text between blanks. -/
def pieces (text : List Char) : List (List Char) :=
  (Text.splitAll ' ' text).filter (!·.isEmpty)

/-- The tokens of a script, from within a word that may have begun. -/
def lex (parameters : List (List Char)) (quoting : Quoting) (word : Option (List Char))
    (text : List Char) : List Token :=
  match quoting, text with
  | _, [] => wordToken word
  | .single, '\'' :: rest | .double, '"' :: rest => lex parameters .plain (grow word []) rest
  | .single, character :: rest => lex parameters .single (grow word [character]) rest
  | .double, '\\' :: '"' :: rest => lex parameters .double (grow word ['"']) rest
  | .double, '\\' :: '\\' :: rest => lex parameters .double (grow word ['\\']) rest
  | .double, '\\' :: '$' :: rest => lex parameters .double (grow word ['$']) rest
  | .double, '$' :: '@' :: rest =>
    let (tokens, word) := spread word parameters.tail
    tokens ++ lex parameters .double word rest
  | .double, '$' :: name :: rest =>
    match parameter? parameters name with
    | some value => lex parameters .double (grow word value) rest
    | none => lex parameters .double (grow word ['$']) (name :: rest)
  | .double, character :: rest => lex parameters .double (grow word [character]) rest
  | .plain, '$' :: name :: rest =>
    match parameter? parameters name with
    | some value =>
      let (tokens, word) := spread word (pieces value)
      tokens ++ lex parameters .plain word rest
    | none => lex parameters .plain (grow word ['$']) (name :: rest)
  | .plain, '\'' :: rest => lex parameters .single (grow word []) rest
  | .plain, '"' :: rest => lex parameters .double (grow word []) rest
  | .plain, '\\' :: escaped :: rest => lex parameters .plain (grow word [escaped]) rest
  | .plain, ' ' :: rest | .plain, '\t' :: rest => wordToken word ++ lex parameters .plain none rest
  | .plain, ';' :: rest | .plain, '\n' :: rest =>
    wordToken word ++ .next :: lex parameters .plain none rest
  | .plain, '|' :: '|' :: rest => wordToken word ++ .ifFailure :: lex parameters .plain none rest
  | .plain, '|' :: rest => wordToken word ++ .pipe :: lex parameters .plain none rest
  | .plain, '&' :: '&' :: rest => wordToken word ++ .ifSuccess :: lex parameters .plain none rest
  | .plain, '&' :: rest => wordToken word ++ .next :: lex parameters .plain none rest
  | .plain, '<' :: rest => wordToken word ++ .fromFile :: lex parameters .plain none rest
  | .plain, '>' :: '&' :: _ :: rest =>
    beforeMark word ++ .duplicate ((source word).getD 1) :: lex parameters .plain none rest
  | .plain, '>' :: rest =>
    beforeMark word ++ .toFile ((source word).getD 1) :: lex parameters .plain none rest
  | .plain, character :: rest => lex parameters .plain (grow word [character]) rest
termination_by text.length
decreasing_by all_goals simp only [List.length_cons]; omega

/-- A command: its words, and what becomes of its outputs. -/
structure Simple where
  words : List (List Char) := []
  /-- The changes of an effect, in the order in which they are written. -/
  redirections : List (Effect → Effect) := []

/-- Where an output goes. -/
def duplicate (number : Nat) (effect : Effect) : Effect :=
  if number = 1 then { effect with out := [], err := effect.err ++ effect.out }
  else { effect with out := effect.out ++ effect.err, err := [] }

/-- An output goes nowhere. -/
def discard (number : Nat) (effect : Effect) : Effect :=
  if number = 1 then { effect with out := [] } else { effect with err := [] }

/-- The command of tokens without marks between commands. -/
def Simple.ofTokens : List Token → Simple
  | .word text :: rest => let other := ofTokens rest; { other with words := text :: other.words }
  | .duplicate number :: rest =>
    let other := ofTokens rest
    { other with redirections := duplicate number :: other.redirections }
  | .toFile number :: .word _ :: rest =>
    let other := ofTokens rest
    { other with redirections := discard number :: other.redirections }
  | .fromFile :: .word _ :: rest => ofTokens rest
  | _ :: rest => ofTokens rest
  | [] => {}

/-- What is told of a command that is not found. -/
def notFound (name : List Char) : Effect where
  status := 127
  err := Tool.bytes ("sh: 1: ".toList ++ name ++ ": not found\n".toList)

/-- What comes of words as a command, after a command with a given status. -/
def runWords (last : Int) (input : List UInt8) : List (List Char) → Effect
  | [] => { status := last }
  | name :: words =>
    if name = "exit".toList then
      { status := ((words.head?.bind (Text.natOfDigits? 10)).map fun code =>
          Int.ofNat (code % 256)).getD last
        endsShell := true }
    else if name = "exec".toList then
      match words with
      | [] => {}
      | tool :: arguments =>
        { (Tool.run? .host tool arguments input).getD (notFound tool) with endsShell := true }
    else if name = "kill".toList then Tool.kill words
    else (Tool.run? .shell name words input).getD (notFound name)

/-- What comes of a command. -/
def runSimple (last : Int) (input : List UInt8) (tokens : List Token) : Effect :=
  let command := Simple.ofTokens tokens
  command.redirections.reverse.foldl (fun effect change => change effect)
    (runWords last input command.words)

/-- Cut tokens at the marks that satisfy a condition: what stands before the first mark,
and each mark with what follows it. -/
def cut (isMark : Token → Bool) : List Token → List Token × List (Token × List Token)
  | [] => ([], [])
  | token :: rest =>
    let (first, others) := cut isMark rest
    if isMark token then ([], (token, first) :: others) else (token :: first, others)

/-- What comes of commands of which each takes the output of the one before. Each is
carried out by a shell of its own. -/
def runPipe (last : Int) (before : Effect) : List (Token × List Token) → Effect
  | [] => before
  | (_, tokens) :: rest =>
    let effect := runSimple last before.out tokens
    runPipe last
      { effect with
        err := before.err ++ effect.err
        millis := max before.millis effect.millis
        endsShell := false } rest

/-- What comes of commands with pipes between them. -/
def runPipeline (last : Int) (tokens : List Token) : Effect :=
  let (first, others) := cut (· = .pipe) tokens
  runPipe last (runSimple last [] first) others

/-- Whether a mark lets the command after it run, after a command with a given status. -/
def allows (status : Int) : Token → Bool
  | .ifSuccess => status = 0
  | .ifFailure => status ≠ 0
  | _ => true

/-- What comes of the commands after others. -/
def runRest (before : Effect) : List (Token × List Token) → Effect
  | [] => before
  | (mark, tokens) :: rest =>
    if before.endsShell then before
    else if allows before.status mark then
      runRest (before.followedBy (runPipeline before.status tokens)) rest
    else runRest before rest

/-- What comes of a script with its parameters, the first of which is its name. -/
def run (parameters : List (List Char)) (script : List Char) : Effect :=
  let isMark (token : Token) : Bool :=
    token = .next || token = .ifSuccess || token = .ifFailure
  let (first, others) := cut isMark (lex parameters .plain none script)
  runRest (runPipeline 0 first) others

end Script
end Shell
end SessionHub
