import SessionHub.Client.Api
import SessionHub.Http.Server
import SessionHub.Proofs.Wire.Event

/-!
# What one side writes the other side reads

The client puts records into the bodies of its requests, and finds others in the responses
of the server. Each side reads what the other one wrote.
-/

namespace SessionHub
namespace Wire

open Client (ApiClient)
open Http (Server)

/-! ## Requests -/

/-- The header with which the client announces a body. -/
theorem find?_contentType :
    [("content-type", "application/json")].find? (fun (key, _) =>
      key.toList.map Char.toLower = "content-type".toList.map Char.toLower) =
      some ("content-type", "application/json") := by
  decide +kernel

theorem isJson_announced : Http.MediaType.isJson "application/json" = true := by
  decide +kernel

theorem document?_requestFor
    (method : String)
    (value : Json.Value)
    (url : Url) :
    Server.document? (ApiClient.requestFor method (some value) url) =
      some (.ofBytes (Text.Utf8.encode value.renderChars)) := by
  have announced : (ApiClient.requestFor method (some value) url).header? "content-type" =
      some "application/json" :=
    congrArg (Option.map Prod.snd) find?_contentType
  rw [Server.document?, announced, Option.map_some, Option.getD_some, if_pos isJson_announced]
  rfl

/-- The server finds in the body what the client put there. -/
theorem read_document?_requestFor
    {codec : Codec α}
    (faithful : codec.IsFaithful)
    {value : α}
    (noPayload : codec.payload? value = none)
    (method : String)
    (url : Url) :
    (Server.document? (ApiClient.requestFor method (some (codec.toJson value)) url)).map
      codec.read = some (.ok value) := by
  rw [document?_requestFor, Option.map_some]
  exact congrArg some (faithful.yields noPayload).fromBytes

/-- The server finds in the body the creation request that the client sends. -/
theorem creationRequest_body
    (method : String)
    (request : CreateRequest)
    (url : Url) :
    Server.creationRequest (ApiClient.requestFor method (some request.toJson) url).body =
      .ok request := by
  have back : CreateRequest.read (.ofBytes (Text.Utf8.encode request.toJson.renderChars)) =
      .ok request := (CreateRequest.isFaithful_codec.yields rfl).fromBytes
  have nonempty : (Text.Utf8.encode request.toJson.renderChars).isEmpty = false := rfl
  change Server.creationRequest (Text.Utf8.encode request.toJson.renderChars) = .ok request
  rw [Server.creationRequest, nonempty, if_neg nofun, back]

/-! ## Responses -/

/-- The client reads what the server answers with. -/
theorem readText_toJson
    {codec : Codec α}
    (faithful : codec.IsFaithful)
    {value : α}
    (noPayload : codec.payload? value = none) :
    ApiClient.readText codec.read (codec.toJson value) = some value :=
  congrArg Except.toOption (faithful.yields noPayload).fromText

theorem readSessions_array (summaries : List SessionSummary) :
    ApiClient.readSessions (.array (summaries.map (·.toJson))) = some summaries := by
  have read : ∀ summary : SessionSummary,
      ApiClient.readText SessionSummary.read summary.toJson = some summary :=
    fun summary => readText_toJson SessionSummary.isFaithful_codec rfl
  rw [ApiClient.readSessions]
  induction summaries with
  | nil => rfl
  | cons summary rest inductionHypothesis =>
      rw [List.map_cons, List.mapM_cons, read summary, inductionHypothesis]
      rfl

/-! ## All types -/

/-- What is written of an update, an event of either kind, a summary, a request or a resize
message is read back from its text and from its bytes, unless the payload of an event is
nested too deep, which makes the text no JSON; and whatever text one of these was read from,
it stays the same when it is written and read again. So the server reads the bodies that the
client writes, and the client reads what the server answers. -/
theorem codecs_faithful :
    StatusUpdate.codec.IsFaithful ∧
    StatusEvent.codec.IsFaithful ∧
    Event.codec.IsFaithful ∧
    SessionSummary.codec.IsFaithful ∧
    CreateRequest.codec.IsFaithful ∧
    Terminal.ResizeMessage.codec.IsFaithful ∧
    (∀ method update url,
      (Server.document?
        (ApiClient.requestFor method (some (StatusUpdate.toJson update)) url)).map
          StatusUpdate.read = some (.ok update)) ∧
    (∀ method request url,
      Server.creationRequest
        (ApiClient.requestFor method (some (CreateRequest.toJson request)) url).body =
          .ok request) ∧
    (∀ event, ApiClient.readText StatusEvent.read (StatusEvent.toJson event) = some event) ∧
    (∀ summaries : List SessionSummary,
      ApiClient.readSessions (.array (summaries.map (·.toJson))) = some summaries) :=
  ⟨StatusUpdate.isFaithful_codec, StatusEvent.isFaithful_codec, Event.isFaithful_codec,
    SessionSummary.isFaithful_codec, CreateRequest.isFaithful_codec,
    Terminal.ResizeMessage.isFaithful_codec,
    fun method _ url => read_document?_requestFor StatusUpdate.isFaithful_codec rfl method url,
    creationRequest_body, fun _ => readText_toJson StatusEvent.isFaithful_codec rfl,
    readSessions_array⟩

end Wire
end SessionHub
