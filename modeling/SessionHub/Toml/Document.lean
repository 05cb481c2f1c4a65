import SessionHub.Toml.Scalar

/-!
# TOML documents

A document is a sequence of lines, most of them statements: headers, which open a table,
and assignments, which add to the table that was opened last. `Document.parse?` reads the
statements and carries them out.
-/

namespace SessionHub
namespace Toml

/-- A text without the comment that it begins with, if it does. -/
def skipComment : List Char → List Char
  | '#' :: rest => rest.dropWhile isPrintable
  | text => text

/-- A text without its leading blanks, line ends and comments. The first argument bounds
their number. -/
def skipFill : Nat → List Char → List Char
  | 0, text => text
  | fuel + 1, text =>
    match lineEnd? text with
    | some rest => skipFill fuel rest
    | none =>
      match text with
      | [] => []
      | character :: rest =>
        if isSpace character then skipFill fuel rest
        else if character = '#' then skipFill fuel (skipComment text)
        else text

/-! ## Keys -/

/-- The characters of a bare key. -/
def isBareCharacter (character : Char) : Bool :=
  character.isAlphanum || character = '-' || character = '_'

/-- A key without dots. -/
def readSimpleKey (text : List Char) : Option (String × List Char) :=
  match text with
  | '"' :: rest =>
    (readBasic text.length rest).map fun (name, rest) => (String.ofList name, rest)
  | '\'' :: rest => (readLiteral rest).map fun (name, rest) => (String.ofList name, rest)
  | text =>
    let name := text.takeWhile isBareCharacter
    if name.isEmpty then none
    else some (String.ofList name, text.dropWhile isBareCharacter)

/-- A key with dots, and the text after it and the blanks behind it. The first argument
bounds the number of its parts. -/
def readKey : Nat → List Char → Option (List String × List Char)
  | 0, _ => none
  | fuel + 1, text => do
    let (name, rest) ← readSimpleKey text
    match skipSpaces rest with
    | '.' :: rest =>
      let (names, rest) ← readKey fuel (skipSpaces rest)
      pure (name :: names, rest)
    | rest => pure ([name], rest)

/-! ## Values -/

/-- A value that has no parts. -/
def readScalar (text : List Char) : Option (Value × List Char) :=
  match text with
  | 't' :: 'r' :: 'u' :: 'e' :: rest => some (.boolean true, rest)
  | 'f' :: 'a' :: 'l' :: 's' :: 'e' :: rest => some (.boolean false, rest)
  | '"' :: _ | '\'' :: _ =>
    (readString text).map fun (content, rest) => (.string (String.ofList content), rest)
  | text => if looksLikeMoment text then readMoment text else readNumber text

/-- Add a value under a key to the entries of a table. -/
def assignKey (path : List String) (value : Value) (entries : Entries) : Option Entries :=
  match path.getLast? with
  | none => none
  | some key => assign value path.dropLast key entries

mutual

/-- A value at the beginning of a text. The first argument bounds the number of nested
calls. -/
def readValue : Nat → List Char → Option (Value × List Char)
  | 0, _ => none
  | fuel + 1, '[' :: rest => do
    let (items, rest) ← readItems fuel (skipFill rest.length rest)
    pure (.array items, rest)
  | fuel + 1, '\x7b' :: rest =>
    match skipSpaces rest with
    | '\x7d' :: rest => some (.table .inline [], rest)
    | rest => do
      let (entries, rest) ← readPairs fuel [] rest
      pure (.table .inline entries, rest)
  | _ + 1, text => readScalar text

/-- The items of an array up to its bracket. A comma may follow the last one. -/
def readItems : Nat → List Char → Option (List Value × List Char)
  | 0, _ => none
  | _ + 1, ']' :: rest => some ([], rest)
  | fuel + 1, text => do
    let (item, rest) ← readValue fuel text
    match skipFill rest.length rest with
    | ']' :: rest => pure ([item], rest)
    | ',' :: rest =>
      let (items, rest) ← readItems fuel (skipFill rest.length rest)
      pure (item :: items, rest)
    | _ => none

/-- The pairs of a table in braces up to its brace, added to entries. -/
def readPairs : Nat → Entries → List Char → Option (Entries × List Char)
  | 0, _, _ => none
  | fuel + 1, entries, text => do
    let (path, rest) ← readKey text.length text
    let rest ← expect '=' rest
    let (value, rest) ← readValue fuel (skipSpaces rest)
    let entries ← assignKey path value entries
    match skipSpaces rest with
    | '\x7d' :: rest => pure (entries, rest)
    | ',' :: rest => readPairs fuel entries (skipSpaces rest)
    | _ => none

end

/-! ## Statements -/

/-- A statement. -/
inductive Statement
  /-- Adds a value under a key. -/
  | assign (path : List String) (value : Value)
  /-- Opens a table. -/
  | header (path : List String)
  /-- Opens another item of an array of tables. -/
  | item (path : List String)
deriving Repr

/-- The text after the end of a line on which nothing but a comment may stand any more. -/
def finishLine (text : List Char) : Option (List Char) :=
  match skipComment (skipSpaces text) with
  | [] => some []
  | rest => lineEnd? rest

/-- The statement of a line, if there is one, and the text after the line. -/
def readLine (text : List Char) : Option (Option Statement × List Char) :=
  let fuel := text.length + 1
  match skipSpaces text with
  | '[' :: '[' :: rest => do
    let (path, rest) ← readKey fuel (skipSpaces rest)
    let rest ← expect ']' (← expect ']' rest)
    pure (some (.item path), ← finishLine rest)
  | '[' :: rest => do
    let (path, rest) ← readKey fuel (skipSpaces rest)
    let rest ← expect ']' rest
    pure (some (.header path), ← finishLine rest)
  | start =>
    match finishLine start with
    | some rest => some (none, rest)
    | none => do
      let (path, rest) ← readKey fuel start
      let rest ← expect '=' rest
      let (value, rest) ← readValue (2 * fuel) (skipSpaces rest)
      pure (some (.assign path value), ← finishLine rest)

/-- The statements of a text. The first argument bounds the number of lines. -/
def readStatements : Nat → List Char → Option (List Statement)
  | 0, _ => none
  | _ + 1, [] => some []
  | fuel + 1, text => do
    let (statement, rest) ← readLine text
    let others ← readStatements fuel rest
    pure (statement.toList ++ others)

/-- Carry out statements on a document, where assignments add to the table at a path. -/
def carryOut : List Statement → List String → Entries → Option Entries
  | [], _, entries => some entries
  | .assign path value :: rest, opened, entries =>
    (changeAt (assignKey path value) opened entries).bind (carryOut rest opened)
  | .header path :: rest, _, entries =>
    path.getLast?.bind fun key =>
      (changeAt (openTable key) path.dropLast entries).bind (carryOut rest path)
  | .item path :: rest, _, entries =>
    path.getLast?.bind fun key =>
      (changeAt (openItem key) path.dropLast entries).bind (carryOut rest path)

/-- The table that a text denotes. A byte order mark at its beginning does not count. -/
def parse? (text : String) : Option Entries :=
  let content :=
    match text.toList with
    | '\uFEFF' :: rest => rest
    | content => content
  (readStatements (content.length + 1) content).bind (carryOut · [] [])

end Toml
end SessionHub
