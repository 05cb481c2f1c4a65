import SessionHub.Http.Server

/-!
# Requests without the token

A request whose query does not hold the token of the server is answered before any action
is performed, and the answer is made of the request alone.
-/

namespace SessionHub
namespace Http
namespace Server

/-- The query of a request holds one token, and it is the one that clients must know. -/
def Admits (server : Server) (request : Request) : Prop :=
  request.pairs.filter (·.1 = "token") = [("token", server.token)]

instance (server : Server) (request : Request) : Decidable (server.Admits request) :=
  inferInstanceAs (Decidable (_ = _))

theorem admits_iff
    {server : Server}
    {request : Request} :
    server.Admits request ↔ parameter? "token" request.pairs = some (some server.token) := by
  rw [Admits, parameter?]
  cases found : request.pairs.filter (·.1 = "token") with
  | nil => simp
  | cons pair rest =>
      obtain ⟨name, value⟩ := pair
      have listed : (name, value) ∈ request.pairs.filter (·.1 = "token") :=
        found ▸ List.mem_cons_self
      have named : name = "token" := of_decide_eq_true (List.mem_filter.1 listed).2
      cases rest with
      | nil => simp [named]
      | cons other others => simp

/-! ## Tokens -/

variable {server : Server} {request : Request} {token : Option String}

theorem authorized_of_refused
    (refuses : ¬server.Admits request)
    (isToken : parameter? "token" request.pairs = some token)
    (job : Job Response) :
    server.authorized token job = pure ApiError.forbidden.response := by
  refine if_neg fun accepted => refuses (admits_iff.2 ?_)
  rw [isToken, of_decide_eq_true accepted]

/-! ## Answers -/

/-- What comes of a request is the same for all servers that refuse it, and is no action. -/
def IsSettled (request : Request) (outcome : Server → Except Rejection (Job Response)) : Prop :=
  ∃ settled : Except Rejection Response, ∀ server : Server, ¬server.Admits request →
    outcome server = settled.map pure

theorem isSettled_error (request : Request) (rejection : Rejection) :
    IsSettled request fun _ => .error rejection :=
  ⟨.error rejection, fun _ _ => rfl⟩

theorem isSettled_pure (request : Request) (response : Response) :
    IsSettled request fun _ => .ok (pure response) :=
  ⟨.ok response, fun _ _ => rfl⟩

theorem isSettled_authorized
    (isToken : parameter? "token" request.pairs = some token)
    (job : Server → Job Response) :
    IsSettled request fun server => .ok (server.authorized token (job server)) := by
  refine ⟨.ok ApiError.forbidden.response, fun server refuses => ?_⟩
  exact congrArg Except.ok (authorized_of_refused refuses isToken _)

theorem IsSettled.bind
    {next : α → Server → Except Rejection (Job Response)}
    (settled : ∀ part, IsSettled request (next part))
    (read : Except Rejection α) :
    IsSettled request fun server => read >>= fun part => next part server := by
  cases read with
  | error rejection => exact isSettled_error request rejection
  | ok part => exact settled part

theorem IsSettled.ite
    {first second : Server → Except Rejection (Job Response)}
    (settledFirst : IsSettled request first)
    (settledSecond : IsSettled request second)
    (condition : Prop)
    [Decidable condition] :
    IsSettled request fun server => if condition then first server else second server := by
  by_cases holds : condition
  · simpa only [if_pos holds] using settledFirst
  · simpa only [if_neg holds] using settledSecond

/-- Every route looks at the token before it acts, and at nothing else of the server. -/
theorem isSettled_handle (request : Request) (route : Route) :
    IsSettled request fun server => server.handle request route := by
  unfold handle
  cases isToken : parameter? "token" request.pairs with
  | none =>
      cases route with
      | health => exact isSettled_pure request _
      | sessions | session | status | notify => exact isSettled_error request .query
      | terminal name =>
          dsimp only
          split
          · exact isSettled_error request .path
          · exact isSettled_error request .query
          · contradiction
      | events => exact isSettled_error request .query
  | some token =>
      cases route with
      | health => exact isSettled_pure request _
      | sessions =>
          have create : IsSettled request fun server =>
              if bodyLimit < request.body.length then .error .tooLong
              else .ok (server.authorized token (server.createSession request.body)) :=
            (isSettled_error request .tooLong).ite (isSettled_authorized isToken _) _
          exact create.ite (isSettled_authorized isToken _) _
      | session name =>
          dsimp only
          cases Route.decodeName? name with
          | none => exact isSettled_error request .path
          | some session => exact isSettled_authorized isToken _
      | status => exact .bind (fun update => isSettled_authorized isToken _) _
      | notify name =>
          dsimp only
          cases Route.decodeName? name with
          | none => exact isSettled_error request .path
          | some scope => exact .bind (fun payload => isSettled_authorized isToken _) _
      | terminal name =>
          dsimp only
          cases Route.decodeName? name with
          | none => exact isSettled_error request .path
          | some session => exact isSettled_error request _
      | events =>
          dsimp only
          cases parameter? "subject" request.pairs with
          | none => exact isSettled_error request .query
          | some subject => exact isSettled_error request _

/-- A request without the token is answered at once, with a response that is made of the
request alone. -/
theorem exists_respond_of_refused (request : Request) :
    ∃ response, ∀ server : Server, ¬server.Admits request →
      server.respond request = pure response := by
  unfold respond
  cases Route.ofPath? request.path with
  | none => exact ⟨_, fun _ _ => rfl⟩
  | some route =>
      by_cases allowed : request.method ∈ route.methods
      · simp only [if_pos allowed]
        obtain ⟨settled, handled⟩ := isSettled_handle request route
        let response :=
          match settled with
          | .ok response => response
          | .error rejection => rejection.response
        refine ⟨{ response with headersOnly := request.method = "HEAD" }, ?_⟩
        intro server refuses
        dsimp only at handled
        rw [handled server refuses]
        cases settled <;> rfl
      · simp only [if_neg allowed]
        exact ⟨_, fun _ _ => rfl⟩

variable {First Second : Type}

/-- Two servers with whatever tokens, sessions, observers and commands give the same
response to a request without the token of either, and neither does anything: no command is
run, nothing is published or delivered, and the registry and the hub stay as they are. -/
theorem refused_requests_indistinguishable
    (request : Request)
    (first second : Server)
    (firstRefuses : ¬first.Admits request)
    (secondRefuses : ¬second.Admits request)
    (firstRunner : CommandRunner First)
    (secondRunner : CommandRunner Second)
    (firstWorld : World First)
    (secondWorld : World Second) :
    let (firstResponse, firstAfter) := (first.respond request).run firstRunner firstWorld
    let (secondResponse, secondAfter) := (second.respond request).run secondRunner secondWorld
    firstResponse = secondResponse ∧ firstAfter = firstWorld ∧ secondAfter = secondWorld := by
  obtain ⟨response, responds⟩ := exists_respond_of_refused request
  rw [responds first firstRefuses, responds second secondRefuses]
  exact ⟨rfl, rfl, rfl⟩

/-- A wrong token tells two servers apart as little, of which one knows a session. -/
theorem wrong_token_indistinguishable :
    let request : Request := ⟨"GET", "/api/sessions/a?token=wrong", [], []⟩
    let first : Server := ⟨⟨{}⟩, "secret"⟩
    let second : Server := ⟨⟨{}⟩, "hidden"⟩
    let firstWorld : World (List ScriptedReply) :=
      { registry := .empty "/", hub := .empty, runner := [], clock := fun _ => 0,
        words := fun _ => 0 }
    let secondWorld : World (List ScriptedReply) :=
      { firstWorld with
        registry := (StatusRegistry.empty "/").init "a" "/home" 1
        runner := [.timeout] }
    ¬first.Admits request ∧ ¬second.Admits request ∧
      let (firstResponse, firstAfter) :=
        (first.respond request).run ScriptedReply.runner firstWorld
      let (secondResponse, secondAfter) :=
        (second.respond request).run ScriptedReply.runner secondWorld
      firstResponse = secondResponse ∧ firstAfter = firstWorld ∧ secondAfter = secondWorld := by
  intro request first second firstWorld secondWorld
  have firstRefuses : ¬first.Admits request := by decide +kernel
  have secondRefuses : ¬second.Admits request := by decide +kernel
  exact ⟨firstRefuses, secondRefuses,
    refused_requests_indistinguishable request first second firstRefuses secondRefuses
      ScriptedReply.runner ScriptedReply.runner firstWorld secondWorld⟩

end Server
end Http
end SessionHub
