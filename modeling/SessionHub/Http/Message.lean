import SessionHub.Json.Value
import SessionHub.Text.Percent
import SessionHub.Text.Blank

/-!
# Requests and responses

A request as it is received, the parts of its target, and the response to it.
-/

namespace SessionHub
namespace Http

/-- A request. -/
structure Request where
  method : String
  target : String
  headers : List (String × String) := []
  body : List UInt8 := []
deriving DecidableEq, Repr

namespace Request

/-- The target without its fragment. -/
def located (request : Request) : List Char :=
  request.target.toList.takeWhile (· ≠ '#')

/-- The path, as it is written. -/
def path (request : Request) : List Char :=
  request.located.takeWhile (· ≠ '?')

/-- The query, as it is written. -/
def query (request : Request) : List Char :=
  (request.located.dropWhile (· ≠ '?')).drop 1

/-- The pairs of the query. -/
def pairs (request : Request) : List (String × String) :=
  Text.Form.decodeQuery request.query

/-- The value of the first header of a name, in which case does not matter. -/
def header? (request : Request) (name : String) : Option String :=
  (request.headers.find? fun (key, _) =>
    key.toList.map Char.toLower = name.toList.map Char.toLower).map Prod.snd

end Request

/-- The value of an optional parameter of a query, or `none` if it is given twice. -/
def parameter? (name : String) (pairs : List (String × String)) : Option (Option String) :=
  match (pairs.filter (·.1 = name)).map Prod.snd with
  | [] => some none
  | [value] => some (some value)
  | _ :: _ :: _ => none

/-- The words that belong to status codes. -/
def statusWords : List (Nat × String) :=
  [(200, "OK"), (400, "Bad Request"), (401, "Unauthorized"), (403, "Forbidden"),
   (404, "Not Found"), (405, "Method Not Allowed"), (413, "Payload Too Large"),
   (415, "Unsupported Media Type"), (422, "Unprocessable Entity"),
   (426, "Upgrade Required"), (500, "Internal Server Error"), (502, "Bad Gateway"),
   (503, "Service Unavailable"), (504, "Gateway Timeout")]

/-- A status code with its words. -/
def statusLine (status : Nat) : String :=
  String.ofList (Text.natDigits status) ++ " " ++
    (statusWords.lookup status).getD "<unknown status code>"

/-- What a response holds. -/
inductive Content
  /-- Nothing at all. -/
  | empty
  /-- Words for a human reader. -/
  | plain (text : String)
  /-- A JSON value. -/
  | json (value : Json.Value)
deriving Repr

/-- A response. -/
structure Response where
  status : Nat
  content : Content := .empty
  /-- Whether the content is left out, as it is for a request of the headers alone. -/
  headersOnly : Bool := false
  /-- The methods that the target has, where they are told. -/
  allow : Option (List String) := none
deriving Repr

namespace Response

/-- A successful response with a JSON value. -/
def ok (value : Json.Value) : Response where
  status := 200
  content := .json value

/-- A response with words. -/
def plain (status : Nat) (text : String) : Response where
  status := status
  content := .plain text

/-- The media type of the content. -/
def contentType? (response : Response) : Option String :=
  match response.content with
  | .empty => none
  | .plain _ => some "text/plain; charset=utf-8"
  | .json _ => some "application/json"

/-- The JSON value that is sent, if there is one. -/
def json? (response : Response) : Option Json.Value :=
  match response.content with
  | .json value => if response.headersOnly then none else some value
  | .empty | .plain _ => none

end Response
end Http
end SessionHub
