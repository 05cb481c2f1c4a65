import SessionHub.Text.Numeral
import SessionHub.Toml.Value

/-!
# TOML scalars

Strings, numbers, dates and times. Each reader takes a text and returns what stands at its
beginning, and the rest.
-/

namespace SessionHub
namespace Toml

/-- The blanks within a line. -/
def isSpace (character : Char) : Bool :=
  character = ' ' || character = '\t'

/-- A text without its leading blanks. -/
def skipSpaces (text : List Char) : List Char :=
  text.dropWhile isSpace

/-- The characters that may stand in a comment or a string: all but control characters
other than the tab. -/
def isPrintable (character : Char) : Bool :=
  character = '\t' || (' ' ≤ character && character ≠ '\x7f')

/-- What follows a line end, if the text begins with one. -/
def lineEnd? : List Char → Option (List Char)
  | '\n' :: rest => some rest
  | '\r' :: '\n' :: rest => some rest
  | _ => none

/-! ## Strings -/

/-- The character of an escape code, unless the code is that of no character. -/
def characterOf? (code : Nat) : Option Char :=
  if code < 0xD800 ∨ (0xDFFF < code ∧ code < 0x110000) then some (Char.ofNat code) else none

/-- The character that a one-letter escape stands for. -/
def escaped? : Char → Option Char
  | 'b' => some '\x08'
  | 't' => some '\t'
  | 'n' => some '\n'
  | 'f' => some '\x0c'
  | 'r' => some '\r'
  | '"' => some '"'
  | '\\' => some '\\'
  | _ => none

/-- The character of an escape whose backslash has been read. -/
def readEscape : List Char → Option (Char × List Char)
  | 'u' :: rest => do
    let code ← if rest.length < 4 then none else Text.natOfDigits? 16 (rest.take 4)
    let character ← characterOf? code
    pure (character, rest.drop 4)
  | 'U' :: rest => do
    let code ← if rest.length < 8 then none else Text.natOfDigits? 16 (rest.take 8)
    let character ← characterOf? code
    pure (character, rest.drop 8)
  | letter :: rest => (escaped? letter).map (·, rest)
  | [] => none

/-- A string in quotation marks, from the character after the first mark on. The first
argument bounds the number of characters. -/
def readBasic : Nat → List Char → Option (List Char × List Char)
  | 0, _ => none
  | _ + 1, [] => none
  | _ + 1, '"' :: rest => some ([], rest)
  | fuel + 1, '\\' :: rest => do
    let (character, rest) ← readEscape rest
    let (others, rest) ← readBasic fuel rest
    pure (character :: others, rest)
  | fuel + 1, character :: rest =>
    if isPrintable character then do
      let (others, rest) ← readBasic fuel rest
      pure (character :: others, rest)
    else none

/-- A string in apostrophes, from the character after the first one on. -/
def readLiteral : List Char → Option (List Char × List Char)
  | [] => none
  | '\'' :: rest => some ([], rest)
  | character :: rest =>
    if isPrintable character then do
      let (others, rest) ← readLiteral rest
      pure (character :: others, rest)
    else none

/-- A text without its leading blanks and line ends. The first argument bounds their
number. -/
def skipLines : Nat → List Char → List Char
  | 0, text => text
  | fuel + 1, text =>
    match lineEnd? text with
    | some rest => skipLines fuel rest
    | none =>
      match text with
      | [] => []
      | character :: rest => if isSpace character then skipLines fuel rest else text

/-- What follows a backslash at the end of a line: the line end and the blanks and line
ends after it do not count. -/
def continuation? (text : List Char) : Option (List Char) :=
  (lineEnd? (skipSpaces text)).map fun rest => skipLines rest.length rest

/-- A string of several lines, from the character after the first marks on. A line end is
a line feed, and up to two marks may stand before the last three. -/
def readLines (mark : Char) (escapes : Bool) : Nat → List Char → Option (List Char × List Char)
  | 0, _ => none
  | fuel + 1, text =>
    let marks := (text.takeWhile (· = mark)).length
    if 3 ≤ marks then
      let kept := min (marks - 3) 2
      some (List.replicate kept mark, text.drop (kept + 3))
    else
      match lineEnd? text with
      | some rest => (readLines mark escapes fuel rest).map fun (others, rest) =>
        ('\n' :: others, rest)
      | none =>
        match text with
        | [] => none
        | character :: rest =>
          if escapes && character = '\\' then
            match continuation? rest with
            | some rest => readLines mark escapes fuel rest
            | none => do
              let (character, rest) ← readEscape rest
              let (others, rest) ← readLines mark escapes fuel rest
              pure (character :: others, rest)
          else if isPrintable character then do
            let (others, rest) ← readLines mark escapes fuel rest
            pure (character :: others, rest)
          else none

/-- A string at the beginning of a text. The line end right after three marks does not
count. -/
def readString (text : List Char) : Option (List Char × List Char) :=
  let body (rest : List Char) := (lineEnd? rest).getD rest
  match text with
  | '"' :: '"' :: '"' :: rest => readLines '"' true (text.length + 1) (body rest)
  | '\'' :: '\'' :: '\'' :: rest => readLines '\'' false (text.length + 1) (body rest)
  | '"' :: rest => readBasic text.length rest
  | '\'' :: rest => readLiteral rest
  | _ => none

/-! ## Numbers -/

/-- The digits at the beginning of a text. Between two digits an underscore may stand. -/
def readDigits (base : Nat) : List Char → Option (List Char × List Char)
  | [] => none
  | [digit] => (Text.digitOf? base digit).map fun _ => ([digit], [])
  | digit :: '_' :: rest => do
    let _ ← Text.digitOf? base digit
    let (others, rest) ← readDigits base rest
    pure (digit :: others, rest)
  | digit :: next :: rest => do
    let _ ← Text.digitOf? base digit
    if (Text.digitOf? base next).isSome then
      let (others, rest) ← readDigits base (next :: rest)
      pure (digit :: others, rest)
    else pure ([digit], next :: rest)

/-- A whole number within 64 bits, signed. -/
def integer? (value : Int) : Option Value :=
  if -0x8000000000000000 ≤ value ∧ value < 0x8000000000000000 then some (.integer value) else none

/-- A whole number in a base other than ten, from its first digit on. -/
def readInBase (base : Nat) (text : List Char) : Option (Value × List Char) := do
  let (digits, rest) ← readDigits base text
  let value ← Text.natOfDigits? base digits
  let number ← integer? value
  pure (number, rest)

/-- The whole part of a decimal number: a zero, or digits that do not begin with one. -/
def readWhole : List Char → Option (List Char × List Char)
  | '0' :: rest => some (['0'], rest)
  | text => readDigits 10 text

/-- The fraction of a number, if there is one. -/
def readFraction : List Char → Option (List Char × List Char)
  | '.' :: rest => (readDigits 10 rest).map fun (digits, rest) => ('.' :: digits, rest)
  | text => some ([], text)

/-- The exponent of a number, if there is one. -/
def readExponent : List Char → Option (List Char × List Char)
  | mark :: rest =>
    if mark = 'e' ∨ mark = 'E' then
      let signed := rest.head? = some '+' ∨ rest.head? = some '-'
      let sign := if signed then rest.take 1 else []
      (readDigits 10 (if signed then rest.drop 1 else rest)).map fun (digits, rest) =>
        ('e' :: sign ++ digits, rest)
    else some ([], mark :: rest)
  | [] => some ([], [])

/-- A decimal number whose sign has been read. -/
def readDecimal (negative : Bool) (text : List Char) : Option (Value × List Char) := do
  let (whole, rest) ← readWhole text
  let (fraction, rest) ← readFraction rest
  let (exponent, rest) ← readExponent rest
  if fraction.isEmpty ∧ exponent.isEmpty then
    let value ← Text.natOfDigits? 10 whole
    let number ← integer? (if negative then -(value : Int) else value)
    pure (number, rest)
  else
    pure (.float ((if negative then ['-'] else []) ++ whole ++ fraction ++ exponent), rest)

/-- A number whose sign has been read. -/
def readUnsigned (negative : Bool) : List Char → Option (Value × List Char)
  | 'i' :: 'n' :: 'f' :: rest => some (.float "inf".toList, rest)
  | 'n' :: 'a' :: 'n' :: rest => some (.float "nan".toList, rest)
  | text => readDecimal negative text

/-- A number at the beginning of a text. -/
def readNumber : List Char → Option (Value × List Char)
  | '+' :: rest => readUnsigned false rest
  | '-' :: rest => readUnsigned true rest
  | '0' :: 'x' :: rest => readInBase 16 rest
  | '0' :: 'o' :: rest => readInBase 8 rest
  | '0' :: 'b' :: rest => readInBase 2 rest
  | text => readUnsigned false text

/-! ## Dates and times -/

/-- A number of exactly so many digits, within bounds. -/
def readFixed (count least greatest : Nat) (text : List Char) : Option (Nat × List Char) := do
  if (text.take count).length < count then none
  else
    let value ← Text.natOfDigits? 10 (text.take count)
    if least ≤ value ∧ value ≤ greatest then pure (value, text.drop count) else none

/-- The rest after a character that must be there. -/
def expect (character : Char) : List Char → Option (List Char)
  | first :: rest => if first = character then some rest else none
  | [] => none

/-- How many days a month has. -/
def daysIn (year month : Nat) : Nat :=
  if month = 2 then
    if (year % 4 = 0 ∧ year % 100 ≠ 0) ∨ year % 400 = 0 then 29 else 28
  else if month ∈ [4, 6, 9, 11] then 30
  else 31

/-- The rest after a date. -/
def skipDate (text : List Char) : Option (List Char) := do
  let (year, rest) ← readFixed 4 0 9999 text
  let (month, rest) ← readFixed 2 1 12 (← expect '-' rest)
  let (_, rest) ← readFixed 2 1 (daysIn year month) (← expect '-' rest)
  pure rest

/-- The rest after a time of day. -/
def skipTime (text : List Char) : Option (List Char) := do
  let (_, rest) ← readFixed 2 0 23 text
  let (_, rest) ← readFixed 2 0 59 (← expect ':' rest)
  let (_, rest) ← readFixed 2 0 60 (← expect ':' rest)
  match rest with
  | '.' :: digits =>
    if (digits.takeWhile Text.isDigit).isEmpty then none
    else pure (digits.dropWhile Text.isDigit)
  | rest => pure rest

/-- The rest after the offset of a time zone, if there is one. -/
def skipOffset : List Char → Option (List Char)
  | mark :: rest =>
    if mark = 'Z' ∨ mark = 'z' then some rest
    else if mark = '+' ∨ mark = '-' then do
      let (_, rest) ← readFixed 2 0 23 rest
      let (_, rest) ← readFixed 2 0 59 (← expect ':' rest)
      pure rest
    else some (mark :: rest)
  | [] => some []

/-- The rest after a date, with or without a time. -/
def skipMoment (text : List Char) : Option (List Char) := do
  let rest ← skipDate text
  match rest with
  | mark :: time =>
    if mark = 'T' ∨ mark = 't' then skipOffset (← skipTime time)
    else if mark = ' ' then
      match skipTime time with
      | some rest => skipOffset rest
      | none => pure rest
    else pure rest
  | [] => pure []

/-- A date or a time at the beginning of a text. -/
def readMoment (text : List Char) : Option (Value × List Char) := do
  let rest ←
    match text.drop 2 with
    | ':' :: _ => skipTime text
    | _ => skipMoment text
  pure (.moment (text.take (text.length - rest.length)), rest)

/-- Whether a text begins like a date or a time. -/
def looksLikeMoment (text : List Char) : Bool :=
  ((text.take 4).length = 4 && (text.take 4).all Text.isDigit && text[4]? = some '-')
    || ((text.take 2).length = 2 && (text.take 2).all Text.isDigit && text[2]? = some ':')

end Toml
end SessionHub
