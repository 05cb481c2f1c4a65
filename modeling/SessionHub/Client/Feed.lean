import SessionHub.Client.Connection

/-!
# The printed feed

The event feed is printed message by message, each text on a line of its own, until the
server closes the feed.
-/

namespace SessionHub
namespace Client
namespace Feed

/-- What is reported when receiving fails. -/
def failureMessage : String := "Event feed error"

/-- The lines that are printed of what comes over the feed, and the failure that ends it,
if one does. -/
def follow : List Incoming → List String × Option String
  | .message (.text text) :: rest =>
    let (lines, failure) := follow rest
    (text :: lines, failure)
  | .message (.close _) :: _ | .ended :: _ | [] => ([], none)
  | .failure :: _ => ([], some failureMessage)
  | .message _ :: rest => follow rest

/-- What lines look like where they are printed. -/
def printed (lines : List String) : List Char :=
  lines.flatMap fun line => line.toList ++ ['\n']

end Feed
end Client
end SessionHub
