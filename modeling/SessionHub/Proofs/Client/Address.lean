import SessionHub.Http.Route
import SessionHub.Proofs.Client.Request
import SessionHub.Proofs.Url.Server
import SessionHub.Session.Name

/-!
# Names that clients and servers agree on

A client writes the name of a session or a scope into a path as it is, and the server
takes it out of the path that arrives. They speak of the same name exactly if the name is
a segment of a path as it stands; any other name, such as one with a question mark, leads
nowhere or to another name.
-/

namespace SessionHub

namespace Http

namespace Route

open Text Url

/-! ## Paths and routes -/

theorem segments?_pathText
    {names : List (List Char)}
    (nonempty : names ≠ [])
    (noSlash : ∀ name ∈ names, '/' ∉ name) :
    segments? (pathText (.segments names)) = some (names.map String.ofList) := by
  have cut := splitAll_pathText noSlash
  obtain ⟨name, others, rfl⟩ := List.exists_cons_of_ne_nil nonempty
  rw [pathText_cons, splitAll_separator] at cut
  rw [pathText_cons, segments?, (List.cons.inj cut).2]

theorem decodeName?_eq_some_iff
    {written : List Char}
    {name : String} :
    decodeName? written = some name ↔ denoted written = Utf8.encode name.toList := by
  rw [decodeName?, Option.map_eq_some_iff]
  constructor
  · rintro ⟨text, decoded, rfl⟩
    rw [denoted, Utf8.decode?_eq_some_iff.1 decoded, String.toList_ofList]
  · intro meant
    exact ⟨name.toList, Utf8.decode?_eq_some_iff.2 meant, String.ofList_toList⟩

end Route

/-- A request leads to a route for its method with a name in it, as the server reads the
name. -/
def Request.LeadsTo
    (request : Request)
    (method : String)
    (route : List Char → Route)
    (name : String) : Prop :=
  request.method = method ∧ ∃ written, Route.ofPath? request.path = some (route written) ∧
    Route.decodeName? written = some name

end Http

namespace Client

open Text Url ApiClient

/-! ## What a name is of -/

/-- What the name in a path is the name of. -/
inductive Target
  | session
  | scope
  | terminal
deriving DecidableEq, Repr

namespace Target

/-- The route of a name as it is written. -/
def route : Target → List Char → Http.Route
  | session => .session
  | scope => .notify
  | terminal => .terminal

/-- The path of a name. -/
def path : Target → String → String
  | session => sessionPath
  | scope => notifyPath
  | terminal => terminalPath

/-- The segments before a name. -/
def before : Target → List (List Char)
  | session => ["api".toList, "sessions".toList]
  | scope => ["api".toList, "scopes".toList]
  | terminal => ["ws".toList, "terminal".toList]

/-- The segments after a name. -/
def after : Target → List (List Char)
  | session | terminal => []
  | scope => ["notify".toList]

/-- The segments of a path, with a name at its place. -/
def names (target : Target) (name : List Char) : List (List Char) :=
  target.before ++ name :: target.after

/-- A name that a path carries as it stands: it is a segment, and at the end of a path
there is something of it, with a character at the end that counts. -/
def Carries (target : Target) (name : List Char) : Prop :=
  IsSegment name ∧ (target = scope ∨ name ≠ [] ∧ EndsVisibly name)

instance (target : Target) (name : List Char) : Decidable (target.Carries name) :=
  inferInstanceAs (Decidable (_ ∧ _))

variable {target : Target}

/-- The names of sessions that are created here are carried by every path. -/
theorem carries_of_isValid
    {beginning name : String}
    (isValid : SessionName.isValid beginning name) :
    target.Carries name.toList := by
  obtain ⟨isName, _, isLonger⟩ := SessionName.isValid_iff.1 isValid
  have isNot (character : Char) (excluded : SessionName.isNameCharacter character = false) :
      character ∉ name.toList := fun mem => nomatch (isName character mem).symm.trans excluded
  refine ⟨⟨fun character mem => Bool.eq_false_iff.2 fun foreign => ?_,
    holdsTriple_of_not_mem (isNot '%' rfl), ?_, ?_⟩, .inr ⟨?_, fun last isLast => ?_⟩⟩
  · simp only [isForeign, isSlash, endsPath, Bool.or_eq_true, decide_eq_true_eq,
      Bool.true_and] at foreign
    rcases foreign with ((((rfl | rfl) | rfl | rfl) | rfl) | rfl) | rfl <;> exact isNot _ rfl mem
  · intro isDot
    exact isNot '.' rfl (by simp [isDot])
  · intro isDots
    exact isNot '.' rfl (by simp [isDots])
  · exact List.ne_nil_of_length_pos (by omega)
  · have listed : ∀ code ≤ 0x20, SessionName.isNameCharacter (Char.ofNat code) = false := by
      decide
    refine Bool.eq_false_iff.2 fun trimmed => isNot last ?_ (List.mem_of_getLast? isLast)
    rw [← Char.ofNat_toNat last]
    exact listed _ (of_decide_eq_true trimmed)

theorem toList_path (name : String) :
    (target.path name).toList = pathText (.segments (target.names name.toList)) := by
  cases target <;>
    simp [path, names, before, after, sessionPath, sessionsPath, notifyPath, terminalPath,
      pathText]

theorem ofPath?_eq_some_iff {path written : List Char} :
    Http.Route.ofPath? path = some (target.route written) ↔
      Http.Route.segments? path = some ((target.names written).map String.ofList) ∧
        (target = scope ∨ written ≠ []) := by
  constructor
  · intro isRoute
    rw [Http.Route.ofPath?] at isRoute
    cases target <;> simp only [route] at isRoute <;> split at isRoute <;>
      grind [names, before, after, String.ofList_toList, String.toList_eq_nil_iff,
        String.isEmpty_iff]
  · rintro ⟨segments, nonempty⟩
    cases target <;> simp_all [Http.Route.ofPath?, route, names, before, after]

/-! ## The segments of a path -/

theorem isSegment_of_fixed
    {segment : List Char}
    (isFixed : segment ∈ target.before ∨ segment ∈ target.after) :
    IsSegment segment ∧ inPath segment = segment := by
  have listed : ∀ segment ∈ target.before ++ target.after,
      IsSegment segment ∧ inPath segment = segment := by
    cases target <;> decide
  exact listed segment (List.mem_append.2 isFixed)

theorem denoted_of_fixed
    {segment : List Char}
    (isFixed : segment ∈ target.before ∨ segment ∈ target.after) :
    denoted segment = Utf8.encode segment := by
  obtain ⟨isSegment, same⟩ := isSegment_of_fixed isFixed
  rw [← denoted_inPath isSegment.literal, same]

theorem map_denoted_names_iff {written name : List Char} :
    (target.names written).map denoted = (target.names name).map Utf8.encode ↔
      denoted written = Utf8.encode name := by
  have front : target.before.map denoted = target.before.map Utf8.encode :=
    List.map_congr_left fun _ isFixed => denoted_of_fixed (.inl isFixed)
  have back : target.after.map denoted = target.after.map Utf8.encode :=
    List.map_congr_left fun _ isFixed => denoted_of_fixed (.inr isFixed)
  simp [names, front, back]

theorem names_eq_map_inPath_iff {written name : List Char} :
    target.names written = (target.names name).map inPath ↔ written = inPath name := by
  have front : target.before.map inPath = target.before :=
    (List.map_congr_left fun _ isFixed => (isSegment_of_fixed (.inl isFixed)).2).trans
      (List.map_id _)
  have back : target.after.map inPath = target.after :=
    (List.map_congr_left fun _ isFixed => (isSegment_of_fixed (.inr isFixed)).2).trans
      (List.map_id _)
  simp [names, front, back]

theorem isSegment_names_iff {name : List Char} :
    (∀ segment ∈ target.names name, IsSegment segment) ↔ IsSegment name := by
  refine ⟨fun isSegment => isSegment name (by simp [names]), fun isName segment mem => ?_⟩
  rcases List.mem_append.1 mem with isFixed | mem
  · exact (isSegment_of_fixed (.inl isFixed)).1
  · rcases List.mem_cons.1 mem with rfl | isFixed
    · exact isName
    · exact (isSegment_of_fixed (.inr isFixed)).1

theorem pathText_names (name : List Char) :
    pathText (.segments (target.names name)) =
      pathText (.segments target.before) ++ '/' :: (name ++ pathText (.segments target.after)) := by
  simp [pathText, names]

theorem endsVisibly_path_iff {name : List Char} :
    EndsVisibly (pathText (.segments (target.names name))) ↔
      target = scope ∨ EndsVisibly name := by
  rw [pathText_names, endsVisibly_append (List.cons_ne_nil _ _), endsVisibly_slash]
  cases target with
  | session | terminal =>
      change EndsVisibly (name ++ []) ↔ _
      simp
  | scope =>
      rw [endsVisibly_append (by decide)]
      exact iff_of_true (by decide) (.inl rfl)

/-- A path leads to a name as it is meant exactly if it carries the name as it stands. -/
theorem exists_written_iff {name : String} :
    (∃ written, place (target.path name).toList = target.names written ∧
        (target = scope ∨ written ≠ []) ∧ denoted written = Utf8.encode name.toList) ↔
      target.Carries name.toList := by
  have isMeant (written : List Char) :
      place (target.path name).toList = target.names written ∧
          denoted written = Utf8.encode name.toList ↔
        written = inPath name.toList ∧ IsSegment name.toList ∧
          (target = scope ∨ EndsVisibly name.toList) := by
    rw [toList_path, ← map_denoted_names_iff, place_pathText_iff (by simp [names]),
      names_eq_map_inPath_iff, isSegment_names_iff, endsVisibly_path_iff]
  constructor
  · rintro ⟨written, isPlace, mayBeEmpty, meant⟩
    obtain ⟨rfl, isSegment, isVisible⟩ := (isMeant written).1 ⟨isPlace, meant⟩
    rw [Ne, inPath_eq_nil_iff] at mayBeEmpty
    exact ⟨isSegment, mayBeEmpty.elim .inl fun nonempty => isVisible.imp_right fun ends =>
      ⟨nonempty, ends⟩⟩
  · rintro ⟨isSegment, isEnd⟩
    obtain ⟨isPlace, meant⟩ := (isMeant _).2 ⟨rfl, isSegment, isEnd.imp_right And.right⟩
    refine ⟨_, isPlace, isEnd.imp_right fun ends => ?_, meant⟩
    rw [Ne, inPath_eq_nil_iff]
    exact ends.1

/-! ## Requests -/

theorem endsPath_of_mem_place
    {path : List Char}
    {character : Char}
    (mem : character ∈ pathText (.segments (place path))) :
    endsPath character = false := by
  rcases mem_pathText mem with rfl | ⟨segment, isSegment, inside⟩
  · rfl
  · exact (plain_of_mem_place isSegment).2 character inside

theorem leadsTo_iff
    {url : Url}
    {name : String}
    (isPath : url.path = .segments (place (target.path name).toList))
    (method : String)
    (body : Option Json.Value) :
    (requestFor method body url).LeadsTo method target.route name ↔
      target.Carries name.toList := by
  have plain : ∀ character ∈ url.pathChars, endsPath character = false := by
    rw [pathChars, isPath]
    exact fun _ => endsPath_of_mem_place
  have segments (written : List Char) :
      Http.Route.segments? (requestFor method body url).path =
          some ((target.names written).map String.ofList) ↔
        place (target.path name).toList = target.names written := by
    rw [path_requestFor plain, pathChars, isPath,
      Http.Route.segments?_pathText (place_ne_nil _) fun _ mem => (plain_of_mem_place mem).1,
      Option.some_inj, (List.map_injective_iff.2 fun _ _ => String.ofList_injective).eq_iff]
  rw [← exists_written_iff, Http.Request.LeadsTo]
  simp only [ofPath?_eq_some_iff, segments, Http.Route.decodeName?_eq_some_iff, and_assoc]
  exact and_iff_right rfl

end Target

/-! ## Agreement -/

theorem isServerBase_of_ofAddress?
    {place token : String}
    {client : ApiClient}
    (isClient : ofAddress? ("http://" ++ place) token = .ok client) :
    IsServerBase client.base := by
  rw [ofAddress?, String.toList_append] at isClient
  split at isClient
  · cases isClient
  · next base read =>
    cases isClient
    exact isServerBase_of_parse? read

/-- The URL of a web socket is the URL of the path under another scheme. -/
theorem socketUrl_eq
    {client : ApiClient}
    {path : String}
    {url : Url}
    (isUrl : client.url path = .ok url)
    (special : isSpecial url.scheme = true)
    (hosted : url.hasHost = true) :
    client.socketUrl path = .ok
      { url with
        scheme := socketScheme url.scheme
        authority := url.authority.map (Authority.under (socketScheme url.scheme)) } := by
  have changed : url.withSpecialScheme? (socketScheme url.scheme) = some _ :=
    if_pos ⟨special, hosted⟩
  rw [socketUrl, isUrl]
  simp only [bind, Except.bind]
  rw [changed]
  rfl

section

variable {client : ApiClient} (isServer : IsServerBase client.base)
include isServer

/-- The URL of a name has its path on the server of the client. -/
theorem exists_url
    (target : Target)
    (name : String) :
    ∃ query fragment, client.url (target.path name) = .ok
      { scheme := client.base.scheme, authority := client.base.authority
        path := .segments (Url.place (target.path name).toList)
        query := some query, fragment } := by
  obtain ⟨character, rest, spelled, counts, notSlash⟩ :
      ∃ character rest, (target.path name).toList = '/' :: character :: rest ∧
        isTrimmed character = false ∧ isSlash true character = false := by
    rw [target.toList_path, target.pathText_names]
    cases target <;> exact ⟨_, _, rfl, by decide, by decide⟩
  obtain ⟨query, fragment, joined⟩ := isServer.join?_eq counts notSlash rest
  rw [ApiClient.url, spelled, joined]
  exact ⟨_, _, rfl⟩

theorem exists_request
    (target : Target)
    (name method : String)
    (body : Option Json.Value) :
    ∃ request, client.request method (target.path name) body = .ok request ∧
      (request.LeadsTo method target.route name ↔ target.Carries name.toList) := by
  obtain ⟨query, fragment, isUrl⟩ := exists_url isServer target name
  rw [ApiClient.request, isUrl]
  exact ⟨_, rfl, target.leadsTo_iff rfl method body⟩

theorem exists_terminalUrl (name : String) :
    ∃ url, client.terminalUrl name = .ok url ∧
      ((requestFor "GET" none url).LeadsTo "GET" .terminal name ↔
        Target.terminal.Carries name.toList) := by
  obtain ⟨query, fragment, isUrl⟩ := exists_url isServer .terminal name
  exact ⟨_, socketUrl_eq isUrl isServer.special isServer.hosted,
    Target.terminal.leadsTo_iff rfl "GET" none⟩

end

/-- For a server with any address, what a client sends to destroy a session, to notify a
scope and to attach to a terminal leads to the route of the same name exactly if the path
carries the name as it stands. -/
theorem names_agree_iff
    {place token : String}
    {client : ApiClient}
    (isClient : ofAddress? ("http://" ++ place) token = .ok client)
    (name : String)
    (payload : Json.Value) :
    ∃ destroy notify terminal,
      client.request "DELETE" (sessionPath name) none = .ok destroy ∧
      client.request "POST" (notifyPath name) (some payload) = .ok notify ∧
      client.terminalUrl name = .ok terminal ∧
      (destroy.LeadsTo "DELETE" .session name ↔ Target.session.Carries name.toList) ∧
      (notify.LeadsTo "POST" .notify name ↔ Target.scope.Carries name.toList) ∧
      ((requestFor "GET" none terminal).LeadsTo "GET" .terminal name ↔
        Target.terminal.Carries name.toList) := by
  have isServer := isServerBase_of_ofAddress? isClient
  obtain ⟨destroy, isDestroy, destroys⟩ := exists_request isServer .session name "DELETE" none
  obtain ⟨notify, isNotify, notifies⟩ :=
    exists_request isServer .scope name "POST" (some payload)
  obtain ⟨terminal, isTerminal, attaches⟩ := exists_terminalUrl isServer name
  exact ⟨destroy, notify, terminal, isDestroy, isNotify, isTerminal, destroys, notifies,
    attaches⟩

/-- The client of a server on this computer. -/
def localClient : ApiClient where
  base :=
    { scheme := "http".toList, authority := some { host := "127.0.0.1".toList, port := some 8890 }
      path := .segments [[]] }
  token := "secret"

theorem names_agree_on_local_server :
    ofAddress? ("http://" ++ "127.0.0.1:8890") "secret" = .ok localClient ∧
      ∃ destroy, localClient.request "DELETE" (sessionPath "chat é") none = .ok destroy ∧
        destroy.LeadsTo "DELETE" .session "chat é" := by
  have isClient : ofAddress? ("http://" ++ "127.0.0.1:8890") "secret" = .ok localClient := by
    decide +kernel
  obtain ⟨destroy, _, _, isDestroy, _, _, destroys, _⟩ :=
    names_agree_iff isClient "chat é" .null
  exact ⟨isClient, destroy, isDestroy, destroys.2 (by decide)⟩

/-- Destroying a session with a question mark in its name destroys another one. -/
theorem question_mark_leads_to_other_session :
    ofAddress? ("http://" ++ "127.0.0.1:8890") "secret" = .ok localClient ∧
      ∃ destroy, localClient.request "DELETE" (sessionPath "chat-a?b") none = .ok destroy ∧
        destroy.LeadsTo "DELETE" .session "chat-a" ∧
        ¬destroy.LeadsTo "DELETE" .session "chat-a?b" := by
  have isDestroy : localClient.request "DELETE" (sessionPath "chat-a?b") none =
      .ok { method := "DELETE", target := "/api/sessions/chat-a?b&token=secret" } := by
    decide +kernel
  have isRoute : Http.Route.ofPath? "/api/sessions/chat-a".toList =
      some (.session "chat-a".toList) := by
    decide +kernel
  have decoded : Http.Route.decodeName? "chat-a".toList = some "chat-a" := by
    decide +kernel
  refine ⟨by decide +kernel, _, isDestroy, ⟨rfl, _, isRoute, decoded⟩, ?_⟩
  rintro ⟨_, written, otherRoute, otherName⟩
  have same : some (Http.Route.session written) = some (.session "chat-a".toList) :=
    otherRoute.symm.trans isRoute
  cases same
  exact absurd (decoded.symm.trans otherName) (by decide)

end Client
end SessionHub
