import SessionHub.Http.Server

/-!
# Joining the event feed

A request for the event feed that asks for a web socket. Its query is read before the token is
looked at, and nobody is connected to the hub until the token has been accepted.
-/

namespace SessionHub
namespace Http
namespace Server

open Broadcast (ConnectionId Hub)

/-- The connection that a request for the feed is given, and the hub with it, or the response
that refuses it. -/
def joinFeed (server : Server) (request : Request) (hub : Hub) :
    Except Response (ConnectionId × Hub) :=
  match parameter? "token" request.pairs, parameter? "subject" request.pairs with
  | some token, some subject =>
    if server.accepts token then .ok (hub.openFeed subject) else .error { status := 403 }
  | _, _ => .error Rejection.query.response

end Server
end Http
end SessionHub
