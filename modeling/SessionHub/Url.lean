import SessionHub.Text.Numeral
import SessionHub.Text.Percent

/-!
# URLs

A URL that has been read is kept in its parts, each of them in its written form, so that
a change of one part leaves the others as they are.
-/

namespace SessionHub

/-- The place of a host in a URL. The host may be empty. -/
structure Authority where
  user : List Char := []
  password : List Char := []
  host : List Char
  port : Option Nat := none
deriving DecidableEq, Repr

/-- The path of a URL: a text without further structure, or segments that each have a
slash before them. -/
inductive UrlPath
  | free (text : List Char)
  | segments (names : List (List Char))
deriving DecidableEq, Repr

/-- A URL in its parts. -/
structure Url where
  scheme : List Char
  authority : Option Authority := none
  path : UrlPath
  query : Option (List Char) := none
  fragment : Option (List Char) := none
deriving DecidableEq, Repr

namespace Url

/-! ## Schemes -/

/-- The schemes with rules for hosts, with their usual ports. -/
def specialSchemes : List (List Char × Nat) :=
  [("http".toList, 80), ("https".toList, 443), ("ws".toList, 80), ("wss".toList, 443),
   ("ftp".toList, 21)]

/-- The scheme of local files, which has rules of its own. -/
def fileScheme : List Char := "file".toList

/-- The usual port of a scheme, which is not written. -/
def usualPort (scheme : List Char) : Option Nat :=
  specialSchemes.lookup scheme

/-- Whether a scheme has rules for hosts. -/
def isSpecial (scheme : List Char) : Bool :=
  scheme = fileScheme || (usualPort scheme).isSome

end Url

/-! ## Authorities -/

namespace Authority

/-- The user and the password, if there are any, as they stand before the host. -/
def credentials (authority : Authority) : List Char :=
  let password := if authority.password.isEmpty then [] else ':' :: authority.password
  let both := authority.user ++ password
  if both.isEmpty then [] else both ++ ['@']

/-- An authority as it is written. -/
def text (authority : Authority) : List Char :=
  authority.credentials ++ authority.host ++
    (match authority.port with
      | none => []
      | some port => ':' :: Text.natDigits port)

/-- An authority under another scheme, whose usual port is not written. -/
def under (scheme : List Char) (authority : Authority) : Authority :=
  { authority with port := authority.port.filter fun port => Url.usualPort scheme ≠ some port }

end Authority

namespace Url

/-! ## The written form -/

/-- A path as it is written. -/
def pathText : UrlPath → List Char
  | .free text => text
  | .segments names => names.flatMap ('/' :: ·)

/-- The path of a URL as it is written. -/
def pathChars (url : Url) : List Char :=
  pathText url.path

/-- What keeps a path that starts with two slashes from being read as an authority. -/
def pathGuard (url : Url) : List Char :=
  if url.authority.isNone ∧ url.pathChars.take 2 = ['/', '/'] then ['/', '.'] else []

/-- A part that may be absent, with the mark before it. -/
def marked (mark : Char) : Option (List Char) → List Char
  | none => []
  | some text => mark :: text

/-- A URL as it is written. -/
def text (url : Url) : List Char :=
  url.scheme ++ ':' ::
    ((match url.authority with
        | none => []
        | some authority => '/' :: '/' :: authority.text) ++
      url.pathGuard ++ url.pathChars ++ marked '?' url.query ++ marked '#' url.fragment)

/-! ## Changes -/

/-- The URL with a pair added to its query. -/
def addPair (url : Url) (name value : String) : Url :=
  let pair := Text.Form.encodePair name value
  { url with
    query := some (match url.query with
      | none | some [] => pair
      | some query => query ++ '&' :: pair) }

/-- Whether there is a host that is not empty. -/
def hasHost (url : Url) : Bool :=
  match url.authority with
  | none => false
  | some authority => !authority.host.isEmpty

/-- The URL with another scheme that has rules for hosts. The present scheme has to have
such rules too, and there has to be a host. -/
def withSpecialScheme? (url : Url) (scheme : List Char) : Option Url :=
  if isSpecial url.scheme ∧ url.hasHost then
    some { url with scheme, authority := url.authority.map (Authority.under scheme) }
  else none

end Url
end SessionHub
