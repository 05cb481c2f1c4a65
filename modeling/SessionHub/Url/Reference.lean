import SessionHub.Url
import SessionHub.Url.Host

/-!
# Reading URLs

A text is read as a URL of its own, or as a reference relative to a base. Reading brings
every part to its written form: the scheme and the host to lower case, dots out of the
path, and characters that cannot stand in a part to percent triples. Blanks and control
characters at either end, and tabs and line breaks anywhere, do not count.
-/

namespace SessionHub
namespace Url

/-! ## What has to be escaped -/

/-- The characters that are escaped in a fragment. -/
def escapedInFragment (character : Char) : Bool :=
  isControl character || [' ', '"', '<', '>', '\x60'].contains character

/-- The characters that are escaped in a query. -/
def escapedInQuery (special : Bool) (character : Char) : Bool :=
  isControl character || [' ', '"', '#', '<', '>'].contains character
    || (special && character = '\'')

/-- The characters that are escaped in a path. -/
def escapedInPath (character : Char) : Bool :=
  escapedInFragment character || ['#', '?', '\x7b', '\x7d'].contains character

/-- The characters that are escaped in the name of a user and in a password. -/
def escapedInCredentials (character : Char) : Bool :=
  escapedInPath character
    || ['/', ':', ';', '=', '@', '[', '\\', ']', '^', '|'].contains character

/-! ## Parts -/

/-- Whether a character counts for nothing at the ends of a text. -/
def isTrimmed (character : Char) : Bool :=
  character.toNat ≤ 0x20

/-- A text without what does not count. -/
def clean (text : List Char) : List Char :=
  let trimmed := ((text.dropWhile isTrimmed).reverse.dropWhile isTrimmed).reverse
  trimmed.filter fun character => character ≠ '\t' ∧ character ≠ '\n' ∧ character ≠ '\r'

/-- Whether a character may stand in a scheme. -/
def isSchemeCharacter (character : Char) : Bool :=
  character.isAlphanum || character = '+' || character = '-' || character = '.'

/-- The scheme that a text starts with, and what follows the colon after it. -/
def readScheme? (text : List Char) : Option (List Char × List Char) :=
  let scheme := text.takeWhile isSchemeCharacter
  match scheme.head?, text.dropWhile isSchemeCharacter with
  | some first, ':' :: rest =>
    if first.isAlpha then some (scheme.map Char.toLower, rest) else none
  | _, _ => none

/-- Whether a character separates segments. Backslashes do under special schemes. -/
def isSlash (special : Bool) (character : Char) : Bool :=
  character = '/' || (special && character = '\\')

/-- Whether a character starts the query or the fragment. -/
def endsPath (character : Char) : Bool :=
  character = '?' || character = '#'

/-- Read the query and the fragment. -/
def readTail (special : Bool) (text : List Char) : Option (List Char) × Option (List Char) :=
  let fragment := match text.dropWhile (· ≠ '#') with
    | '#' :: rest => some (percentEncode escapedInFragment rest)
    | _ => none
  match text with
  | '?' :: rest =>
    (some (percentEncode (escapedInQuery special) (rest.takeWhile (· ≠ '#'))), fragment)
  | _ => (none, fragment)

/-! ## Paths -/

/-- A segment with its escaped dots as plain ones. -/
def plainDots : List Char → List Char
  | '%' :: '2' :: 'e' :: rest | '%' :: '2' :: 'E' :: rest => '.' :: plainDots rest
  | character :: rest => character :: plainDots rest
  | [] => []

/-- Whether a segment stands for the place it is in. -/
def isSingleDot (segment : List Char) : Bool :=
  plainDots segment = ['.']

/-- Whether a segment leads one step back. -/
def isDoubleDot (segment : List Char) : Bool :=
  plainDots segment = ['.', '.']

/-- Add segments to a path, in which dots lead to places. At the end of a path such a
segment leaves an empty one. -/
def follow (path : List (List Char)) : List (List Char) → List (List Char)
  | [] => path
  | [last] =>
    if isDoubleDot last then path.dropLast ++ [[]]
    else if isSingleDot last then path ++ [[]]
    else path ++ [last]
  | segment :: rest =>
    if isDoubleDot segment then follow path.dropLast rest
    else if isSingleDot segment then follow path rest
    else follow (path ++ [segment]) rest

/-- The segments of a text as they are written. -/
def readSegments (special : Bool) (text : List Char) : List (List Char) :=
  let slashes := text.map fun character => if isSlash special character then '/' else character
  (Text.splitAll '/' slashes).map (percentEncode escapedInPath)

/-- The URL of a scheme and an authority with a path, which starts at given segments, a
query and a fragment. -/
def finish (scheme : List Char) (authority : Option Authority) (start : List (List Char))
    (text : List Char) : Url :=
  let special := isSpecial scheme
  let path := follow start (readSegments special (text.takeWhile (¬endsPath ·)))
  let (query, fragment) := readTail special (text.dropWhile (¬endsPath ·))
  { scheme, authority, query, fragment
    path := .segments <|
      if scheme = fileScheme then
        let named := path.dropWhile (·.isEmpty)
        if named.isEmpty then [[]] else named
      else path }

/-! ## Authorities -/

/-- Split at the last at sign. -/
def splitAtLastAt (text : List Char) : Option (List Char × List Char) :=
  let after := (text.reverse.takeWhile (· ≠ '@')).reverse
  if text.contains '@' then some (text.take (text.length - after.length - 1), after)
  else none

/-- Split at the first colon outside of brackets. -/
def splitHost (inside : Bool) : List Char → List Char × List Char
  | [] => ([], [])
  | character :: rest =>
    if character = ':' ∧ ¬inside then ([], character :: rest)
    else
      let within := if character = '[' then true else if character = ']' then false else inside
      let (host, others) := splitHost within rest
      (character :: host, others)

/-- Read a port, with what follows it. No digits are no port. -/
def readPort? (scheme : List Char) (text : List Char) :
    Option (Option Nat × List Char) :=
  let digits := text.takeWhile Text.isDigit
  let rest := text.dropWhile Text.isDigit
  if rest.isEmpty ∨ rest.head? = some '\\' then
    if digits.isEmpty then some (none, rest)
    else
      (Text.natOfDigits? 10 digits).bind fun port =>
        if port < UInt16.size then
          some (if usualPort scheme = some port then none else some port, rest)
        else none
  else none

/-- Read a host and a port, with what follows them. -/
def readHostAndPort? (scheme : List Char) (text : List Char) :
    Option (List Char × Option Nat × List Char) := do
  let special := isSpecial scheme
  let (name, rest) := splitHost false text
  if name.isEmpty ∧ (special ∨ ¬rest.isEmpty) then none
  let host ← if special then readHost? name else readFreeHost? name
  match rest with
  | ':' :: digits =>
    let (port, others) ← readPort? scheme digits
    pure (host, port, others)
  | _ => pure (host, none, rest)

/-- Read the user and the password. -/
def readCredentials (text : List Char) : List Char × List Char :=
  let (user, password) := Text.splitFirst ':' text
  let escape := percentEncode escapedInCredentials
  (escape user, escape (password.getD []))

/-- Read an authority and what follows it. -/
def readAuthority? (scheme : List Char) (text : List Char) : Option (Authority × List Char) := do
  let special := isSpecial scheme
  let isEnd (character : Char) : Bool := isSlash special character || endsPath character
  let here := text.takeWhile (¬isEnd ·)
  let rest := text.dropWhile (¬isEnd ·)
  match splitAtLastAt here with
  | none =>
    let (host, port, others) ← readHostAndPort? scheme here
    pure ({ host, port }, others ++ rest)
  | some (credentials, place) =>
    if credentials.isEmpty ∧ place.isEmpty ∧ ¬rest.isEmpty then none
    let (user, password) := readCredentials credentials
    let (host, port, others) ← readHostAndPort? scheme place
    if host.isEmpty ∧ ¬(user.isEmpty ∧ password.isEmpty) then none
    pure ({ user, password, host, port }, others ++ rest)

/-- The URL of a scheme with an authority, read from the text after the two slashes. -/
def readWithAuthority? (scheme : List Char) (text : List Char) : Option Url := do
  let (authority, rest) ← readAuthority? scheme text
  let special := isSpecial scheme
  match rest with
  | [] =>
    pure (if special then finish scheme (some authority) [] []
      else { scheme, authority := some authority, path := .segments [] })
  | character :: others =>
    if isSlash special character then pure (finish scheme (some authority) [] others)
    else if ¬special ∧ endsPath character then
      let (query, fragment) := readTail special rest
      pure { scheme, authority := some authority, path := .segments [], query, fragment }
    else pure (finish scheme (some authority) [] rest)

/-! ## Relative references -/

/-- The segments of a path. -/
def segmentsOf : UrlPath → List (List Char)
  | .free _ => []
  | .segments names => names

/-- The base with another query and fragment. -/
def withTail (base : Url) (text : List Char) : Url :=
  let (query, fragment) := readTail (isSpecial base.scheme) text
  { base with query, fragment }

/-- The base with another fragment. -/
def withFragment (base : Url) (text : List Char) : Url :=
  { base with fragment := (readTail (isSpecial base.scheme) text).2 }

/-- A reference whose path starts in the last place of the base. -/
def besides (base : Url) (text : List Char) : Url :=
  finish base.scheme base.authority (segmentsOf base.path).dropLast text

/-- A reference without a scheme, for a base whose path has segments. -/
def readRelative? (base : Url) (text : List Char) : Option Url :=
  match text with
  | [] => some { base with fragment := none }
  | '?' :: _ => some (base.withTail text)
  | '#' :: _ => some (base.withFragment text)
  | first :: rest =>
    if isSlash true first then
      match rest with
      | '/' :: others =>
        if first = '/' then readWithAuthority? base.scheme others
        else readWithAuthority? base.scheme (text.dropWhile (isSlash true))
      | second :: _ =>
        if isSlash true second then
          readWithAuthority? base.scheme (text.dropWhile (isSlash true))
        else some (finish base.scheme base.authority [] rest)
      | [] => some (finish base.scheme base.authority [] rest)
    else some (base.besides text)

/-! ## Files -/

/-- The host that stands for the place where the URL is read. -/
def localHost : List Char := "localhost".toList

/-- The URL of a file, read from the text after the two slashes. -/
def readFileWithHost? (text : List Char) : Option Url := do
  let isEnd (character : Char) : Bool := isSlash true character || endsPath character
  let name := text.takeWhile (¬isEnd ·)
  let host ← if name.isEmpty then some [] else readHost? name
  let rest := text.dropWhile (¬isEnd ·)
  let path := match rest with
    | first :: others => if isSlash true first then others else rest
    | [] => rest
  pure (finish fileScheme (some { host := if host = localHost then [] else host }) [] path)

/-- The URL of a file, relative to another one if there is a base. -/
def readFile? (base : Option Url) (text : List Char) : Option Url :=
  let authority := (base.bind (·.authority)).getD { host := [] }
  match text with
  | first :: second :: rest =>
    if isSlash true first ∧ isSlash true second then readFileWithHost? rest
    else if isSlash true first then
      some (finish fileScheme (some authority) [] (second :: rest))
    else readBeside base text
  | [first] =>
    if isSlash true first then some (finish fileScheme (some authority) [] [])
    else readBeside base text
  | [] => readBeside base text
where
  /-- A reference that starts neither with a host nor with the root. -/
  readBeside (base : Option Url) (text : List Char) : Option Url :=
    match base with
    | some base => if text.isEmpty ∨ endsPath (text.headD ' ') then readRelative? base text
      else some (base.besides text)
    | none => some (finish fileScheme (some { host := [] }) [] text)

/-! ## URLs -/

/-- The URL of a scheme without rules for hosts. -/
def readFree? (scheme : List Char) : List Char → Option Url
  | '/' :: '/' :: rest => readWithAuthority? scheme rest
  | '/' :: rest => some (finish scheme none [] rest)
  | text =>
    let (query, fragment) := readTail false (text.dropWhile (¬endsPath ·))
    some
      { scheme, query, fragment
        path := .free (percentEncode isControl (text.takeWhile (¬endsPath ·))) }

/-- The URL of a scheme, where a base of the same scheme may give what is left out. -/
def readWithScheme? (base : Option Url) (scheme text : List Char) : Option Url :=
  let sameBase := base.filter (·.scheme = scheme)
  if scheme = fileScheme then readFile? sameBase text
  else if isSpecial scheme then
    match sameBase, (text.takeWhile (isSlash true)).length with
    | some base, 0 | some base, 1 => readRelative? base text
    | _, _ => readWithAuthority? scheme (text.dropWhile (isSlash true))
  else readFree? scheme text

/-- The URL that a text stands for. -/
def parse? (text : List Char) : Option Url := do
  let (scheme, rest) ← readScheme? (clean text)
  readWithScheme? none scheme rest

/-- The URL that a text stands for as a reference relative to a base. -/
def join? (base : Url) (text : List Char) : Option Url :=
  let reference := clean text
  match readScheme? reference with
  | some (scheme, rest) => readWithScheme? (some base) scheme rest
  | none =>
    if reference.head? = some '#' then some (base.withFragment reference)
    else
      match base.path with
      | .free _ => none
      | .segments _ =>
        if base.scheme = fileScheme then readFile? (some base) reference
        else readRelative? base reference

end Url
end SessionHub
