import SessionHub.Http.Feed
import SessionHub.Proofs.Broadcast.Operation
import SessionHub.Proofs.Client.Address
import SessionHub.Proofs.Http.Authorization

/-!
# Tokens and subjects that arrive

A client writes its token, and the subject of a feed, into the query of a URL, and the server
reads them from the query of the request that arrives. Whatever they are, they arrive as they
were given, so that a server lets in exactly the clients that know its token, and a feed gets what
is sent to exactly the scope that was its subject.
-/

namespace SessionHub

namespace Http

/-- The parameters of a request are read as a token and a subject, if there is one. -/
structure Request.IsReadAs (request : Request) (token : String) (subject : Option String) :
    Prop where
  token : parameter? "token" request.pairs = some (some token)
  subject : parameter? "subject" request.pairs = some subject

theorem Request.isReadAs_of_pairs
    {request : Request}
    {token : String}
    {subject : Option String}
    (isPairs : request.pairs = ("token", token) :: subject.toList.map ("subject", ·)) :
    request.IsReadAs token subject := by
  constructor <;> rw [isPairs] <;> cases subject <;> simp [parameter?]

namespace Server

open Broadcast (Audience ConnectionId Hub)

variable {server : Server} {request : Request} {token : String} {subject : Option String}
variable (read : request.IsReadAs token subject)
include read

theorem admits_iff_of_isReadAs : server.Admits request ↔ token = server.token := by
  rw [admits_iff, read.token, Option.some_inj, Option.some_inj]

theorem joinFeed_of_isReadAs (hub : Hub) :
    server.joinFeed request hub =
      if token = server.token then .ok (hub.openFeed subject) else .error { status := 403 } := by
  rw [joinFeed, read.token, read.subject]
  simp [accepts]

end Server
end Http

namespace Client

open Text Url ApiClient Broadcast

/-- The paths in which no name stands. -/
def fixedPaths : List String :=
  [sessionsPath, statusPath, eventsPath]

/-! ## URLs -/

/-- A fixed path begins with one slash, and is led to as it stands. -/
theorem isPlace_of_mem_fixedPaths
    {path : String}
    (isFixed : path ∈ fixedPaths) :
    pathText (.segments (place path.toList)) = path.toList ∧
      ∃ character rest, path.toList = '/' :: character :: rest ∧
        isTrimmed character = false ∧ isSlash true character = false := by
  simp only [fixedPaths, List.mem_cons, List.not_mem_nil, or_false] at isFixed
  rcases isFixed with rfl | rfl | rfl
  · exact ⟨by decide +kernel, _, _, rfl, by decide, by decide⟩
  · exact ⟨by decide +kernel, _, _, rfl, by decide, by decide⟩
  · exact ⟨by decide +kernel, _, _, rfl, by decide, by decide⟩

section

variable {client : ApiClient} (isServer : IsServerBase client.base)
include isServer

theorem exists_url_of_mem_fixedPaths
    {path : String}
    (isFixed : path ∈ fixedPaths) :
    ∃ url, client.url path = .ok url ∧ Spells url path [("token", client.token)] ∧
      url.scheme = client.base.scheme ∧ url.authority = client.base.authority := by
  obtain ⟨isPlace, character, rest, spelled, counts, notSlash⟩ :=
    isPlace_of_mem_fixedPaths isFixed
  have plain : ∀ other ∈ character :: rest, endsPath other = false := by
    intro other mem
    have inPath : other ∈ pathText (.segments (place path.toList)) := by
      rw [isPlace, spelled]
      exact List.mem_cons_of_mem _ mem
    exact Target.endsPath_of_mem_place inPath
  let found : Url :=
    { scheme := client.base.scheme, authority := client.base.authority
      path := .segments (place path.toList) }
  have joined : client.base.join? path.toList = some found := by
    rw [spelled, isServer.join?_of_plain counts notSlash plain, ← spelled]
  have spells : Spells found path [] := by
    refine ⟨isPlace, fun _ => Target.endsPath_of_mem_place, rfl, List.not_mem_nil⟩
  refine ⟨found.addPair "token" client.token, ?_, spells.addPair "token" client.token, rfl, rfl⟩
  rw [ApiClient.url, joined]

theorem exists_feedUrl (subject : Option String) :
    ∃ feed, client.feedUrl subject = .ok feed ∧
      Spells feed eventsPath (("token", client.token) :: subject.toList.map ("subject", ·)) := by
  obtain ⟨url, isUrl, spells, sameScheme, sameAuthority⟩ :=
    exists_url_of_mem_fixedPaths isServer (by decide : eventsPath ∈ fixedPaths)
  have special : isSpecial url.scheme = true := sameScheme ▸ isServer.special
  have hosted : url.hasHost = true := by
    rw [hasHost, sameAuthority]
    exact isServer.hosted
  let socket : Url :=
    { url with
      scheme := socketScheme url.scheme
      authority := url.authority.map (Authority.under (socketScheme url.scheme)) }
  have spelled : Spells socket eventsPath [("token", client.token)] :=
    ⟨spells.path, spells.plain, spells.pairs, spells.whole⟩
  rw [feedUrl, socketUrl_eq isUrl special hosted]
  cases subject with
  | none => exact ⟨socket, rfl, spelled⟩
  | some scope => exact ⟨socket.addPair "subject" scope, rfl, spelled.addPair "subject" scope⟩

end

theorem isServerBase_of_isWeb
    {address token : String}
    {client : ApiClient}
    (isClient : ofAddress? address token = .ok client)
    (isWeb : client.base.scheme = "http".toList ∨ client.base.scheme = "https".toList) :
    IsServerBase client.base ∧ client.token = token := by
  rw [ofAddress?] at isClient
  split at isClient
  · cases isClient
  · next base read =>
    cases isClient
    refine ⟨?_, rfl⟩
    rcases isWeb with isScheme | isScheme
    · exact isServerBase_of_scheme read (isScheme ▸ rfl) (isScheme ▸ by decide)
    · exact isServerBase_of_scheme read (isScheme ▸ rfl) (isScheme ▸ by decide)

/-! ## What is let in -/

/-- The requests of a client of any server on the web are read, on every path without names, as
holding exactly the token that the client was given, and its feeds are read as being for exactly
the subject that was asked for, whatever these are. So a server that knows a token lets in exactly
the clients with the same token, and a feed is opened for a new connection that joins exactly the
scope of the subject, while all others stay where they are. -/
theorem tokens_and_subjects_arrive
    {address token : String}
    {client : ApiClient}
    (isClient : ofAddress? address token = .ok client)
    (isWeb : client.base.scheme = "http".toList ∨ client.base.scheme = "https".toList)
    (server : Http.Server) :
    (∀ path ∈ fixedPaths, ∀ method body, ∃ request,
      client.request method path body = .ok request ∧
      request.path = path.toList ∧
      request.IsReadAs token none ∧
      (server.Admits request ↔ token = server.token)) ∧
    ∀ subject, ∃ feed, client.feedUrl subject = .ok feed ∧
      let request := requestFor "GET" none feed
      request.path = eventsPath.toList ∧
      request.IsReadAs token subject ∧
      (server.Admits request ↔ token = server.token) ∧
      ∀ operations, let hub := Hub.empty.performAll operations
        (token ≠ server.token → server.joinFeed request hub = .error { status := 403 }) ∧
        (token = server.token → ∃ id joined,
          server.joinFeed request hub = .ok (id, joined) ∧
          ¬hub.IsKnown id ∧
          ∀ other audience, other ∈ joined.addressees audience ↔
            (other = id ∧ (audience = .all ∨ ∃ scope ∈ subject, audience = .scope scope)) ∨
              other ∈ hub.addressees audience) := by
  obtain ⟨isServer, rfl⟩ := isServerBase_of_isWeb isClient isWeb
  constructor
  · intro path isFixed method body
    obtain ⟨url, isUrl, spells, _⟩ := exists_url_of_mem_fixedPaths isServer isFixed
    obtain ⟨isPath, isPairs⟩ := spells.arrives method body
    have read : (requestFor method body url).IsReadAs client.token none :=
      Http.Request.isReadAs_of_pairs isPairs
    refine ⟨requestFor method body url, ?_, isPath, read, Http.Server.admits_iff_of_isReadAs read⟩
    rw [ApiClient.request, isUrl]
    rfl
  · intro subject
    obtain ⟨feed, isFeed, spells⟩ := exists_feedUrl isServer subject
    obtain ⟨isPath, isPairs⟩ := spells.arrives "GET" none
    have read := Http.Request.isReadAs_of_pairs isPairs
    refine ⟨feed, isFeed, isPath, read, Http.Server.admits_iff_of_isReadAs read, ?_⟩
    intro operations hub
    have sound : hub.IsSound := Hub.isSound_empty.performAll operations
    have outcome : server.joinFeed (requestFor "GET" none feed) hub = _ :=
      Http.Server.joinFeed_of_isReadAs read hub
    refine ⟨fun differs => outcome.trans (if_neg differs), fun same => ?_⟩
    refine ⟨hub.nextId, (hub.openFeed subject).2, ?_, ?_, ?_⟩
    · rw [outcome, if_pos same]
      cases subject <;> rfl
    · exact fun known => sound.ne_nextId known rfl
    · exact fun other audience => sound.mem_addressees_openFeed subject other audience

/-- A client of a server elsewhere, whose token has to be escaped. -/
def distantClient : ApiClient where
  base :=
    { scheme := "https".toList, authority := some { host := "192.0.2.1".toList }
      path := .segments ["hub".toList, []] }
  token := "a b&=+%#é"

theorem awkward_token_and_subject_arrive :
    let server : Http.Server := ⟨⟨{}⟩, "a b&=+%#é"⟩
    let subject := "é&subject=b"
    ofAddress? "HTTPS://192.0.2.1:443/hub/" server.token = .ok distantClient ∧
    (∃ request, distantClient.request "GET" sessionsPath none = .ok request ∧
      server.Admits request) ∧
    ∃ feed id joined, distantClient.feedUrl (some subject) = .ok feed ∧
      server.joinFeed (requestFor "GET" none feed) .empty = .ok (id, joined) ∧
      ∀ other audience, other ∈ joined.addressees audience ↔
        other = id ∧ (audience = .all ∨ audience = .scope subject) := by
  intro server subject
  have isClient : ofAddress? "HTTPS://192.0.2.1:443/hub/" server.token = .ok distantClient := by
    decide +kernel
  obtain ⟨arrives, feeds⟩ := tokens_and_subjects_arrive isClient (.inr rfl) server
  obtain ⟨request, isRequest, _, _, admits⟩ := arrives sessionsPath (by decide) "GET" none
  obtain ⟨feed, isFeed, _, _, _, joins⟩ := feeds (some subject)
  obtain ⟨id, joined, isJoined, _, members⟩ := (joins []).2 rfl
  refine ⟨isClient, ⟨request, isRequest, admits.2 rfl⟩, feed, id, joined, isFeed, isJoined, ?_⟩
  intro other audience
  have nobody : other ∉ (Hub.empty.performAll []).addressees audience := by
    cases audience <;> exact List.not_mem_nil
  rw [members other audience, or_iff_left nobody]
  simp

end Client
end SessionHub
