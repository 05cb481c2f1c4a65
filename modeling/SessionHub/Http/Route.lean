import SessionHub.Text.Blank
import SessionHub.Text.Percent

/-!
# Routes

What a path leads to. A path is compared as it is written; only what stands in the place
of a name is decoded afterwards.
-/

namespace SessionHub
namespace Http

/-- What a path leads to. Names are kept as they are written. -/
inductive Route
  | health
  | sessions
  | session (name : List Char)
  | status
  | notify (scope : List Char)
  | terminal (name : List Char)
  | events
deriving DecidableEq, Repr

namespace Route

/-- The segments of a path that begins with a slash. -/
def segments? : List Char → Option (List String)
  | '/' :: rest => some ((Text.splitAll '/' rest).map String.ofList)
  | _ => none

/-- The route of a path. -/
def ofPath? (path : List Char) : Option Route :=
  match segments? path with
  | some ["health"] => some .health
  | some ["api", "sessions"] => some .sessions
  | some ["api", "sessions", name] =>
    if name.isEmpty then none else some (.session name.toList)
  | some ["api", "status"] => some .status
  | some ["api", "scopes", scope, "notify"] => some (.notify scope.toList)
  | some ["ws", "terminal", name] =>
    if name.isEmpty then none else some (.terminal name.toList)
  | some ["ws", "events"] => some .events
  | _ => none

/-- The methods of a route, in the order of their names. Whatever can be fetched, its
headers can be fetched alone. -/
def methods : Route → List String
  | .health | .terminal _ | .events => ["GET", "HEAD"]
  | .sessions => ["GET", "HEAD", "POST"]
  | .session _ => ["DELETE", "GET", "HEAD"]
  | .status | .notify _ => ["POST"]

/-- The name that is written in a path. -/
def decodeName? (name : List Char) : Option String :=
  (Text.Utf8.decode? (Text.percentDecode (Text.Utf8.encode name))).map String.ofList

end Route
end Http
end SessionHub
