import SessionHub.Text.Blank

/-!
# Media types

Whether a header announces JSON: an application type whose subtype is `json` or ends in
`+json`, with well-formed parameters or none.
-/

namespace SessionHub
namespace Http
namespace MediaType

/-- The characters of a token. -/
def isTokenCharacter (character : Char) : Bool :=
  character.isAlphanum || "!#$%&'*+-.^_\x60|~".toList.contains character

/-- Whether a text is a token. -/
def isToken (text : List Char) : Bool :=
  ¬text.isEmpty && text.all isTokenCharacter

/-- Whether a character may stand between the quotation marks of a parameter. -/
def isQuotedCharacter (character : Char) : Bool :=
  ' ' ≤ character && character ≠ '\x7f' && character ≠ '"'

/-- Whether a text is a list of parameters, each `name=value`, with a value that is a
token or stands in quotation marks. The first argument bounds the number of parameters. -/
def areParameters : Nat → List Char → Bool
  | 0, text => text.isEmpty
  | _ + 1, [] => true
  | fuel + 1, text =>
    let (name, after) := Text.splitFirst '=' (text.dropWhile (· = ' '))
    isToken name &&
      match after with
      | none => false
      | some ('"' :: quoted) =>
        let rest := quoted.dropWhile isQuotedCharacter
        quoted.head? ≠ some '"' && rest.head? = some '"' &&
          match (rest.drop 1).dropWhile (· = ' ') with
          | [] => true
          | ';' :: others => areParameters fuel others
          | _ => false
      | some value =>
        let (token, others) := Text.splitFirst ';' value
        (token.isEmpty && others.isNone || isToken token) && areParameters fuel (others.getD [])

/-- The part of a subtype after its last plus sign, if something stands before that. -/
def suffix? (subtype : List Char) : Option (List Char) :=
  let after := (subtype.reverse.takeWhile (· ≠ '+')).reverse
  if after.length + 1 < subtype.length then some after else none

/-- The subtype without its suffix. -/
def stem (subtype : List Char) : List Char :=
  match suffix? subtype with
  | none => subtype
  | some after => subtype.take (subtype.length - after.length - 1)

/-- Whether a header announces JSON. -/
def isJson (header : String) : Bool :=
  let (essence, parameters) := Text.splitFirst ';' (header.toList.map Char.toLower)
  let (type, subtype) := Text.splitFirst '/' essence
  match subtype with
  | none => false
  | some subtype =>
    type = "application".toList && isToken subtype
      && (stem subtype = "json".toList || suffix? subtype = some "json".toList)
      && areParameters header.length (parameters.getD [])

end MediaType
end Http
end SessionHub
