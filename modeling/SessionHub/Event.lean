import SessionHub.Json.Printer
import SessionHub.Status.Entry

/-!
# Events

What observers are told. The kind of an event is written in its member `type`, before
the others; a text with that member in another place, or an array that begins with the
kind, is read as well.
-/

namespace SessionHub

open Json (Document Fault RecordField Node)

/-- What observers are told. The payload of a notification is kept in canonical form. -/
inductive Event
  | sessionCreated (sessionId workingDirectory : String)
  | sessionDestroyed (sessionId : String)
  | status (event : StatusEvent)
  | notification (scope : String) (payload : Json.Value)
deriving Repr

namespace Event

/-- The kinds of events. -/
inductive Kind
  | sessionCreated
  | sessionDestroyed
  | status
  | notification
deriving DecidableEq, Repr

namespace Kind

/-- The name of a kind. -/
def name : Kind → String
  | .sessionCreated => "session_created"
  | .sessionDestroyed => "session_destroyed"
  | .status => "status"
  | .notification => "notification"

/-- The kind with a name. -/
def ofName? (text : String) : Option Kind :=
  [sessionCreated, sessionDestroyed, status, notification].find? (·.name = text)

/-- The JSON member that tells the kind. -/
def member (kind : Kind) : String × Json.Value :=
  ("type", .string kind.name)

end Kind

/-- The kind of an event. -/
def kind : Event → Kind
  | .sessionCreated _ _ => .sessionCreated
  | .sessionDestroyed _ => .sessionDestroyed
  | .status _ => .status
  | .notification _ _ => .notification

/-- The members that an event has besides its kind. -/
def members : Event → List (String × Json.Value)
  | .sessionCreated session directory =>
    [("sessionId", .string session), ("workingDirectory", .string directory)]
  | .sessionDestroyed session => [("sessionId", .string session)]
  | .status event => event.members
  | .notification scope payload => [("scope", .string scope), ("payload", payload)]

/-- The JSON value of an event. -/
def toJson (event : Event) : Json.Value :=
  .object (event.kind.member :: event.members)

/-- The text of an event as it is sent. -/
def text (event : Event) : String :=
  event.toJson.render

/-! ## Reading -/

/-- The contents of an event that is being read. -/
structure Draft where
  sessionId : Option String := none
  workingDirectory : Option String := none
  scope : Option String := none
  payload : Option Json.Value := none

/-- The field of a session's name. -/
def sessionField : RecordField Draft :=
  .leaf "sessionId" Json.Value.string? (·.sessionId.isSome)
    (fun text draft => { draft with sessionId := some text })

/-- The field of a working directory. -/
def directoryField : RecordField Draft :=
  .leaf "workingDirectory" Json.Value.string? (·.workingDirectory.isSome)
    (fun text draft => { draft with workingDirectory := some text })

/-- The field of a scope. -/
def scopeField : RecordField Draft :=
  .leaf "scope" Json.Value.string? (·.scope.isSome)
    (fun text draft => { draft with scope := some text })

/-- The field of a payload, which may be any value. -/
def payloadField : RecordField Draft where
  name := "payload"
  isSet := (·.payload.isSome)
  readNode node :=
    match node.toValue? Json.innerDepth with
    | none => .error .notJson
    | some value => .ok fun draft => { draft with payload := some value.canonical }
  readValue value := some fun draft => { draft with payload := some value.canonical }

/-- The contents of an event of some kind. -/
def readContent : Kind → Json.Value → Option Event
  | .sessionCreated =>
    RecordField.takeRecord [sessionField, directoryField] {} fun draft => do
      pure (.sessionCreated (← draft.sessionId) (← draft.workingDirectory))
  | .sessionDestroyed =>
    RecordField.takeRecord [sessionField] {} fun draft => do
      pure (.sessionDestroyed (← draft.sessionId))
  | .status => fun value => (StatusEvent.readValue value).map .status
  | .notification =>
    RecordField.takeRecord [scopeField, payloadField] {} fun draft => do
      pure (.notification (← draft.scope) (← draft.payload))

/-- The kind that a part of a text names. -/
def readKind (node : Node) : Except Fault Kind :=
  node.readLeaf fun value => value.string?.bind Kind.ofName?

/-- Read an event from a part of a JSON text. -/
def readNode : Node → Except Fault Event
  | .object members closed =>
    match Json.readTagged "type" readKind closed members none [] with
    | .error fault => .error fault
    | .ok (kind, others) =>
      match kind.bind (readContent · (.object others)) with
      | none => .error .shape
      | some event => .ok event
  | .array (first :: rest) closed =>
    match readKind first with
    | .error fault => .error fault
    | .ok kind =>
      match Node.itemValues? Json.innerDepth rest with
      | none => .error .notJson
      | some items =>
        if ¬closed then .error .notJson
        else
          match readContent kind (.array items) with
          | none => .error .shape
          | some event => .ok event
  | .array [] closed => .error (if closed then .shape else .notJson)
  | node => .error node.mismatch

/-- Read an event from a JSON text. -/
def read (document : Document) : Except Fault Event :=
  document.read readNode

end Event
end SessionHub
