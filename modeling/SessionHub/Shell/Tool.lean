import SessionHub.Text.Blank
import SessionHub.Text.Numeral
import SessionHub.Text.Utf8

/-!
# Tools

Programs that every host has, so simple that what they do is known entirely. They take
words and bytes, and leave bytes and an exit status after some time. Some of them a shell
carries out itself, in a way of its own.
-/

namespace SessionHub
namespace Shell

/-- What comes of a program. -/
structure Effect where
  /-- The exit status, or -1 if a signal ended the program. -/
  status : Int := 0
  out : List UInt8 := []
  err : List UInt8 := []
  /-- How many milliseconds it takes. -/
  millis : Nat := 0
  /-- Whether the shell that carries it out ends with it. -/
  endsShell : Bool := false
deriving DecidableEq, Repr

namespace Effect

/-- Bytes that are put out. -/
def ofOutput (bytes : List UInt8) : Effect := { out := bytes }

/-- An effect followed by another. The status is that of the last. -/
def followedBy (first second : Effect) : Effect where
  status := second.status
  out := first.out ++ second.out
  err := first.err ++ second.err
  millis := first.millis + second.millis
  endsShell := second.endsShell

end Effect

/-- What carries a tool out. -/
inductive Carrier
  | host
  | shell
deriving DecidableEq, Repr

namespace Tool

/-- The bytes of a text. -/
def bytes (text : List Char) : List UInt8 :=
  Text.Utf8.encode text

/-! ## Escapes -/

/-- The value of at most three octal digits, and what follows them. -/
def octal (digits : Nat) (text : List Char) : Nat × List Char :=
  let taken := (text.take digits).takeWhile fun character => '0' ≤ character && character ≤ '7'
  ((Text.natOfDigits? 8 taken).getD 0, text.drop taken.length)

/-- The byte of a character after a backslash, if it stands for one. -/
def escapedByte? (letter : Char) : Option UInt8 :=
  [('n', 0x0A), ('t', 0x09), ('r', 0x0D), ('a', 0x07), ('b', 0x08), ('f', 0x0C), ('v', 0x0B),
   ('\\', 0x5C)].lookup letter

/-- The value of at most two hexadecimal digits, if there is one, and what follows them. -/
def hexadecimal (text : List Char) : Option Nat × List Char :=
  let taken := (text.take 2).takeWhile fun character => (Text.digitValue? character).isSome
  (Text.natOfDigits? 16 taken, text.drop taken.length)

/-- A text in which a backslash may stand before a letter or digits. `leading` says
whether octal digits have to start with a zero, which does not count then. Only a host
knows hexadecimal digits, after an `x`. -/
def unescape (carrier : Carrier) (leading : Bool) (text : List Char) : List UInt8 :=
  match text with
  | [] => []
  | '\\' :: letter :: rest =>
    match escapedByte? letter with
    | some byte => byte :: unescape carrier leading rest
    | none =>
      if letter = '0' ∧ leading then
        UInt8.ofNat (octal 3 rest).1 :: unescape carrier leading (octal 3 rest).2
      else if '0' ≤ letter ∧ letter ≤ '7' ∧ ¬leading then
        UInt8.ofNat (octal 3 (letter :: rest)).1 :: unescape carrier leading (octal 2 rest).2
      else if letter = 'x' ∧ carrier = .host then
        match (hexadecimal rest).1 with
        | some byte => UInt8.ofNat byte :: unescape carrier leading (hexadecimal rest).2
        | none => 0x5C :: bytes [letter] ++ unescape carrier leading rest
      else 0x5C :: bytes [letter] ++ unescape carrier leading rest
  | character :: rest => bytes [character] ++ unescape carrier leading rest
termination_by text.length
decreasing_by
  all_goals simp only [octal, hexadecimal, List.length_drop, List.length_cons]; omega

/-! ## The tools -/

/-- Words with blanks between them, on a line. A shell heeds escapes in them, a host only
where it is told to. -/
def echo (carrier : Carrier) (words : List (List Char)) : Effect :=
  let line (words : List (List Char)) : List Char := Text.join [' '] words
  match carrier, words with
  | .shell, ['-', 'n'] :: words => .ofOutput (unescape .shell true (line words))
  | .shell, words => .ofOutput (unescape .shell true (line words) ++ [0x0A])
  | .host, ['-', 'n'] :: words => .ofOutput (bytes (line words))
  | .host, ['-', 'e'] :: words => .ofOutput (unescape .host true (line words) ++ [0x0A])
  | .host, words => .ofOutput (bytes (line words) ++ [0x0A])

/-- A format in which each `%s` or `%d` takes the next word, and the words left. -/
def fill : List Char → List (List Char) → List Char × List (List Char)
  | [], words => ([], words)
  | '%' :: '%' :: rest, words => ('%' :: (fill rest words).1, (fill rest words).2)
  | '%' :: 's' :: rest, words =>
    (words.headD [] ++ (fill rest words.tail).1, (fill rest words.tail).2)
  | '%' :: 'd' :: rest, words =>
    (words.headD ['0'] ++ (fill rest words.tail).1, (fill rest words.tail).2)
  | character :: rest, words => (character :: (fill rest words).1, (fill rest words).2)

/-- A format that is used again until no word is left, unless it takes none. -/
def fillAll (form : List Char) (words : List (List Char)) : List Char :=
  let filled := fill form words
  if _shorter : (fill form words).2.length < words.length then
    if filled.2.isEmpty then filled.1 else filled.1 ++ fillAll form filled.2
  else filled.1
termination_by words.length

/-- A format with escapes whose places are taken by words. The escapes of the words stay
as they are. -/
def printf (carrier : Carrier) : List (List Char) → Effect
  | [] => { status := if carrier = .shell then 2 else 1 }
  | form :: words => .ofOutput (unescape carrier false (fillAll form (words.map guardEscapes)))
where
  /-- A word whose backslashes stand for themselves. -/
  guardEscapes (word : List Char) : List Char :=
    word.flatMap fun character => if character = '\\' then ['\\', '\\'] else [character]

/-- How long a number of seconds, which may have decimals, takes. -/
def millisOf (text : List Char) : Nat :=
  let whole := (Text.natOfDigits? 10 (text.takeWhile (· ≠ '.'))).getD 0
  let decimals := ((text.dropWhile (· ≠ '.')).drop 1 ++ ['0', '0', '0']).take 3
  whole * 1000 + (Text.natOfDigits? 10 decimals).getD 0

/-- Longer than anything waits. -/
def endless : Nat := 0x10000000000000000

/-- The first lines of bytes. -/
def firstLines : Nat → List UInt8 → List UInt8
  | 0, _ | _, [] => []
  | count + 1, byte :: rest =>
    byte :: firstLines (if byte = 0x0A then count else count + 1) rest

/-- The first bytes or lines of what is read, from the input or from zeros. -/
def head (input : List UInt8) : List (List Char) → Effect
  | ['-', 'c'] :: count :: source =>
    let limit := (Text.natOfDigits? 10 count).getD 0
    .ofOutput (if source = ["/dev/zero".toList] then List.replicate limit 0
      else input.take limit)
  | [['-', 'n'], count] =>
    .ofOutput (firstLines ((Text.natOfDigits? 10 count).getD 0) input)
  | ['-' :: count] => .ofOutput (firstLines ((Text.natOfDigits? 10 count).getD 0) input)
  | _ => .ofOutput (firstLines 10 input)

/-- How many bytes or lines are read. -/
def wc (input : List UInt8) : List (List Char) → Option Effect
  | [['-', 'c']] => some (.ofOutput (bytes (Text.natDigits input.length ++ ['\n'])))
  | [['-', 'l']] => some (.ofOutput (bytes (Text.natDigits (input.count 0x0A) ++ ['\n'])))
  | _ => none

/-- The numbers up to a bound, each on a line. -/
def seq (words : List (List Char)) : Option Effect :=
  let numbers (first last : Nat) : Effect :=
    .ofOutput (bytes ((List.range' first (last + 1 - first)).flatMap fun number =>
      Text.natDigits number ++ ['\n']))
  match words.map (Text.natOfDigits? 10) with
  | [some last] => some (numbers 1 last)
  | [some first, some last] => some (numbers first last)
  | _ => none

/-- What is told of a file that does not exist. -/
def noSuchFile : List Char := ": No such file or directory\n".toList

/-- The input, or files one after the other, of which only the empty one exists. -/
def cat (input : List UInt8) (words : List (List Char)) : Effect :=
  if words.isEmpty then .ofOutput input
  else
    words.foldl (fun effect word =>
      if word = ['-'] then { effect with out := effect.out ++ input }
      else if word = "/dev/null".toList then effect
      else { effect with
        status := 1
        err := effect.err ++ bytes ("cat: ".toList ++ word ++ noSuchFile) }) {}

/-- Each byte of one set as the byte at its place in the other, whose last one counts for
all further places. -/
def substitute (source target : List UInt8) (byte : UInt8) : UInt8 :=
  match source.idxOf? byte with
  | none => byte
  | some index => target.getD index (target.getLastD byte)

/-- The input with bytes of one set replaced by those of another, or deleted. -/
def tr (input : List UInt8) : List (List Char) → Effect
  | [['-', 'd'], set] => .ofOutput (input.filter (!(unescape .host false set).contains ·))
  | [source, target] =>
    .ofOutput (input.map (substitute (unescape .host false source) (unescape .host false target)))
  | _ => { status := 1 }

/-- What comes of a signal that the shell sends to itself. -/
def kill : List (List Char) → Effect
  | ['-', '0'] :: _ => {}
  | ['-', 'S', 'T', 'O', 'P'] :: _ => { millis := endless }
  | _ => { status := -1, endsShell := true }

/-- What comes of a tool, if there is one of that name. -/
def run? (carrier : Carrier) (name : List Char) (words : List (List Char))
    (input : List UInt8) : Option Effect :=
  let is (tool : String) : Bool := name = tool.toList
  if is "true" then some {}
  else if (is ":" ∨ is "wait") ∧ carrier = .shell then some {}
  else if is "false" then some { status := 1 }
  else if is "echo" then some (echo carrier words)
  else if is "printf" then some (printf carrier words)
  else if is "sleep" then some { millis := millisOf (words.headD []) }
  else if is "cat" then some (cat input words)
  else if is "head" then some (head input words)
  else if is "tr" then some (tr input words)
  else if is "wc" then wc input words
  else if is "seq" then seq words
  else none

end Tool
end Shell
end SessionHub
